import PageObjects.HostName.Letter
import PageObjects.Text.Mark

/-!
# Directions of writing

A part of a name that holds letters written from right to left starts with one and holds none of the
other direction, so that its order on the page is clear. A character that came after Unicode 14 has no
known direction.

* `direction`: the direction of a character.
* `isDirected`: the rule.
-/

namespace PageObjects.HostName

/-- Where a character takes the writing. -/
inductive Direction where
  | leftToRight
  | rightToLeft
  | arabicDigit
  | digit
  | neutral
  | mark
  | unknown
  deriving DecidableEq, Repr

/-- Letters and digits that are written from right to left. -/
def rightToLeftRanges : Text.Ranges := #[
  (0x5D0, 0x5F4), (0x620, 0x64A), (0x66E, 0x66F), (0x671, 0x6D5), (0x6E5, 0x6E6), (0x6EE, 0x6EF),
  (0x6FA, 0x710), (0x712, 0x72F), (0x74D, 0x7A5), (0x7B1, 0x7EA), (0x7F4, 0x7F5), (0x800, 0x815),
  (0x81A, 0x81A), (0x824, 0x824), (0x828, 0x828), (0x840, 0x858), (0x860, 0x88E), (0x8A0, 0x8C9),
  (0xFE73, 0xFE73), (0x10800, 0x10A00), (0x10A10, 0x10A35), (0x10A60, 0x10AE4), (0x10B00, 0x10D23),
  (0x10E80, 0x10EA9), (0x10EB0, 0x10F45), (0x10F70, 0x10F81), (0x10FB0, 0x10FF6),
  (0x1E800, 0x1E8C4), (0x1E922, 0x1E943), (0x1E94B, 0x1E959)]

/-- Digits of Arabic script. -/
def arabicDigitRanges : Text.Ranges := #[
  (0x660, 0x669), (0x10D30, 0x10D39)]

/-- Digits of Persian script, which go with those of ASCII. -/
def digitRanges : Text.Ranges := #[
  (0x6F0, 0x6F9)]

/-- Characters that go with either direction. -/
def neutralRanges : Text.Ranges := #[
  (0xB7, 0xB7), (0x2B9, 0x2BA), (0x2C6, 0x2CF), (0x2EC, 0x2EC), (0x375, 0x375), (0x200C, 0x200D),
  (0x2E2F, 0x2E2F), (0x30FB, 0x30FB), (0xA67F, 0xA67F), (0xA717, 0xA71F), (0xA788, 0xA788)]

/-- Marks without room of their own that still lead from left to right. -/
def leadingMarkRanges : Text.Ranges := #[
  (0xCBF, 0xCBF), (0xCC6, 0xCC6), (0x11A07, 0x11A08), (0x11C3F, 0x11C3F)]

/-- The direction of a character of a name. -/
def direction (c : Char) : Direction :=
  if Text.isAscii c then
    if Text.isAsciiDigit c then .digit else if c == '-' then .neutral else .leftToRight
  else if isNewer c then .unknown
  else if rightToLeftRanges.has c then .rightToLeft
  else if arabicDigitRanges.has c then .arabicDigit
  else if digitRanges.has c then .digit
  else if neutralRanges.has c then .neutral
  else if Text.isNonspacing c && !leadingMarkRanges.has c then .mark
  else .leftToRight

/-- The directions are those of a text from right to left: it starts with a letter, holds none of the
other direction and digits of one kind only, and ends, marks aside, with a letter or a digit. -/
def areRightToLeft (directions : List Direction) : Bool :=
  directions.head? == some .rightToLeft && !directions.contains .leftToRight &&
    !(directions.contains .arabicDigit && directions.contains .digit) &&
    match directions.reverse.find? (· != .mark) with
    | some last => last == .rightToLeft || last == .arabicDigit || last == .digit
    | none => false

/-- The text has one direction. -/
def isDirected (cs : List Char) : Bool :=
  let directions := cs.map direction
  if directions.contains .unknown then false
  else if directions.contains .rightToLeft || directions.contains .arabicDigit then
    areRightToLeft directions
  else true

end PageObjects.HostName
