import Mathlib.Data.List.Infix
import PageObjects.Catalog.UiAutomator

/-!
# The language of UiAutomator selectors

A selector is documented as one call of a supported method, or as a container that is scrolled to a target, where
both are such calls. The check goes by the names of the methods alone: it does not look at what stands between the
parentheses of a call, nor behind them, and takes a name without parentheses for a call, too. A container and its
target are told apart by the last text that can stand between them, and they are not seen at all if there is a
line feed in one of them. The check is the UiAutomator validation of the Registries (specification, 2).

* `UiAutomator.Selects`: a language of selectors, by what may stand behind a method's name and by what container
  and target may be.
* `UiAutomator.Documented`, `UiAutomator.Accepted`: the language that is documented, and the one that is accepted.
* `UiAutomator.check_eq_ok_iff`: the check accepts the latter.
* **`UiAutomator.check_judges`**: how far the two agree.
* `UiAutomator.check_misjudges`: texts that are accepted and no calls, and a selector that is refused.
-/

namespace PageObjects.UiAutomator

/-! ## Languages of selectors -/

/-- The text calls a method: it is the constructor or nothing, the method's name, and what may stand behind a name.
Blanks at both ends do not count. -/
def Calls (behind : List Char → Prop) (method : String) (cs : List Char) : Prop :=
  ∃ opening ∈ [[], constructorPart], ∃ rest, Text.trim cs = opening ++ (method.toList ++ rest) ∧ behind rest

/-- The text scrolls a container to a target. -/
def Scrolls (cs container target : List Char) : Prop :=
  Text.trim cs = scrollableOpening ++ (container ++ (scrollableMiddle ++ (target ++ [')'])))

instance (cs container target : List Char) : Decidable (Scrolls cs container target) :=
  inferInstanceAs (Decidable (_ = _))

/-- A selector is a call of a supported method, or scrolls a container to a target, both of them calls. -/
inductive Selects (behind : List Char → Prop) (parts : List Char → List Char → Prop) (cs : List Char) : Prop
  | call {method : String} (hmethod : method ∈ methods) (hcall : Calls behind method cs)
  | scroll {container target : List Char} {picker method : String} (hscroll : Scrolls cs container target)
      (hparts : parts container target) (hpicker : picker ∈ containerMethods)
      (hcontainer : Calls behind picker container) (hmethod : method ∈ methods)
      (htarget : Calls behind method target)

/-- What is left behind the parenthesis that closes an open one, where `depth` others have to be closed first.
Parentheses in quoted text do not count, and neither does a quote behind a backslash there. -/
def behindClosing? : Nat → Bool → List Char → Option (List Char)
  | _, _, [] => none
  | depth, true, '\\' :: _ :: rest => behindClosing? depth true rest
  | depth, quoted, '"' :: rest => behindClosing? depth (!quoted) rest
  | depth, true, _ :: rest => behindClosing? depth true rest
  | depth, false, '(' :: rest => behindClosing? (depth + 1) false rest
  | 0, false, ')' :: rest => some rest
  | depth + 1, false, ')' :: rest => behindClosing? depth false rest
  | depth, false, _ :: rest => behindClosing? depth false rest

/-- Arguments in parentheses, with nothing behind the closing one. -/
def Closed (rest : List Char) : Prop := rest.head? = some '(' ∧ behindClosing? 0 false rest.tail = some []

instance : DecidablePred Closed := fun _ => inferInstanceAs (Decidable (_ ∧ _))

/-- Nothing, or anything that begins with a parenthesis. -/
def Opens (rest : List Char) : Prop := ∀ c ∈ rest.head?, c = '('

instance : DecidablePred Opens
  | [] => isTrue (by simp [Opens])
  | c :: _ => decidable_of_iff (c = '(') (by simp [Opens])

/-- A container and a target without line feeds. What stands between a container and a target is not found in the
target. -/
structure Plain (container target : List Char) : Prop where
  unbroken : '\n' ∉ container ∧ '\n' ∉ target
  last : ¬ scrollableMiddle <:+: target

/-- The selectors that are documented. -/
def Documented : List Char → Prop := Selects Closed fun _ _ => True

/-- The selectors that are accepted. -/
def Accepted : List Char → Prop := Selects Opens Plain

theorem Closed.opens {rest : List Char} (h : Closed rest) : Opens rest := by
  rw [Opens, h.1]
  simp

theorem Calls.imp {behind behind' : List Char → Prop} {method : String} {cs : List Char}
    (h : ∀ rest, behind rest → behind' rest) : Calls behind method cs → Calls behind' method cs := by
  rintro ⟨opening, hopening, rest, htext, hrest⟩
  exact ⟨opening, hopening, rest, htext, h rest hrest⟩

theorem Selects.imp {behind behind' : List Char → Prop} {parts parts' : List Char → List Char → Prop}
    {cs : List Char} (hbehind : ∀ rest, behind rest → behind' rest)
    (hparts : ∀ container target, parts container target → parts' container target) :
    Selects behind parts cs → Selects behind' parts' cs
  | .call hmethod hcall => .call hmethod (hcall.imp hbehind)
  | .scroll hscroll h hpicker hcontainer hmethod htarget =>
    .scroll hscroll (hparts _ _ h) hpicker (hcontainer.imp hbehind) hmethod (htarget.imp hbehind)

/-! ## Calls -/

/-- The name of a supported method: a word, and none that the constructor begins with. -/
structure IsMethod (method : String) : Prop where
  word : ∀ c ∈ method.toList, Text.isWordChar c = true
  nonempty : method.toList ≠ []
  start : method.toList.head? ≠ constructorPart.head?

theorem isMethod_of_mem {method : String} (h : method ∈ methods) : IsMethod method := by
  have hall : ∀ method ∈ methods, method.toList.all Text.isWordChar = true ∧ method.toList ≠ [] ∧
      method.toList.head? ≠ constructorPart.head? := by decide
  obtain ⟨hword, hnonempty, hstart⟩ := hall method h
  exact ⟨List.all_eq_true.mp hword, hnonempty, hstart⟩

/-- The methods that pick a container are supported. -/
theorem containerMethods_subset : ∀ method ∈ containerMethods, method ∈ methods := by decide

/-- A text that begins with a method does not begin as the constructor does. -/
theorem IsMethod.not_begins {method : String} (h : IsMethod method) {part : List Char}
    (hpart : part.head? = constructorPart.head?) (rest : List Char) : ¬ part <+: method.toList ++ rest := by
  intro hprefix
  obtain ⟨c, name, hname⟩ := List.exists_cons_of_ne_nil h.nonempty
  obtain ⟨d, tail, rfl⟩ := List.exists_cons_of_ne_nil
    (show part ≠ [] by rintro rfl; exact absurd hpart (by decide))
  have hstart := h.start
  rw [hname] at hprefix hstart
  rw [← hpart, (List.cons_prefix_cons.mp hprefix).1] at hstart
  exact hstart rfl

theorem after?_eq_some_iff {part cs rest : List Char} : after? part cs = some rest ↔ cs = part ++ rest := by
  unfold after?
  constructor
  · intro h
    split at h
    · rename_i hpart
      rw [← Option.some.inj h]
      exact (List.prefix_iff_eq_append.mp (List.isPrefixOf_iff_prefix.mp hpart)).symm
    · exact absurd h (by simp)
  · rintro rfl
    rw [if_pos (List.isPrefixOf_iff_prefix.mpr (List.prefix_append part rest)), List.drop_left]

/-- The name that a text opens with, or all of it if there is none. -/
def leadingName (call : List Char) : List Char :=
  let name := call.takeWhile Text.isWordChar
  match call.drop name.length with
  | '(' :: _ => if name.isEmpty then call else name
  | _ => call

theorem methodName_eq (cs : List Char) :
    methodName cs = leadingName ((after? constructorPart (Text.trim cs)).getD (Text.trim cs)) := rfl

theorem leadingName_eq_iff {method : String} {call : List Char} (h : IsMethod method) :
    leadingName call = method.toList ↔ ∃ rest, call = method.toList ++ rest ∧ Opens rest := by
  constructor
  · intro hname
    unfold leadingName at hname
    dsimp only at hname
    split at hname
    · rename_i inner hdrop
      split at hname
      · exact ⟨[], by rw [hname, List.append_nil], by simp [Opens]⟩
      · refine ⟨'(' :: inner, ?_, by simp [Opens]⟩
        have hsplit := List.prefix_iff_eq_append.mp (List.takeWhile_prefix Text.isWordChar (l := call))
        rw [← hdrop, ← hname, hsplit]
    · exact ⟨[], by rw [hname, List.append_nil], by simp [Opens]⟩
  · rintro ⟨rest, rfl, hopens⟩
    have htake : (method.toList ++ rest).takeWhile Text.isWordChar = method.toList := by
      rw [List.takeWhile_append_of_pos h.word]
      cases rest with
      | nil => simp
      | cons c rest =>
        obtain rfl : c = '(' := hopens c rfl
        rw [List.takeWhile_cons_of_neg (by decide), List.append_nil]
    unfold leadingName
    dsimp only
    rw [htake, List.drop_left]
    cases rest with
    | nil => exact List.append_nil _
    | cons c rest =>
      obtain rfl : c = '(' := hopens c rfl
      exact if_neg (by simpa using h.nonempty)

/-- **The name of the method** that a text is judged by is the one that it calls. -/
theorem methodName_eq_iff {method : String} {cs : List Char} (h : IsMethod method) :
    methodName cs = method.toList ↔ Calls Opens method cs := by
  rw [methodName_eq]
  cases hafter : after? constructorPart (Text.trim cs) with
  | some rest =>
    rw [Option.getD_some, leadingName_eq_iff h]
    rw [after?_eq_some_iff] at hafter
    constructor
    · rintro ⟨rest', rfl, hopens⟩
      exact ⟨constructorPart, by simp, rest', hafter, hopens⟩
    · rintro ⟨opening, hopening, rest', htext, hopens⟩
      rw [hafter] at htext
      rcases List.mem_pair.mp hopening with rfl | rfl
      · exact absurd ⟨rest, htext⟩ (h.not_begins rfl rest')
      · exact ⟨rest', List.append_cancel_left htext, hopens⟩
  | none =>
    rw [Option.getD_none, leadingName_eq_iff h]
    constructor
    · rintro ⟨rest, htext, hopens⟩
      exact ⟨[], by simp, rest, htext, hopens⟩
    · rintro ⟨opening, hopening, rest, htext, hopens⟩
      rcases List.mem_pair.mp hopening with rfl | rfl
      · exact ⟨rest, htext, hopens⟩
      · rw [after?_eq_some_iff.mpr htext] at hafter
        exact absurd hafter (by simp)

theorem contains_methodName_iff {names : List String} {cs : List Char} (h : ∀ method ∈ names, IsMethod method) :
    names.contains (String.ofList (methodName cs)) = true ↔ ∃ method ∈ names, Calls Opens method cs := by
  rw [List.contains_iff_mem]
  constructor
  · exact fun hmem => ⟨_, hmem, (methodName_eq_iff (h _ hmem)).mp String.toList_ofList.symm⟩
  · rintro ⟨method, hmem, hcalls⟩
    rwa [(methodName_eq_iff (h method hmem)).mpr hcalls, String.ofList_toList]

theorem checkCall_eq_ok_iff {cs : List Char} :
    checkCall cs = .ok () ↔ ∃ method ∈ methods, Calls Opens method cs := by
  rw [← contains_methodName_iff fun _ => isMethod_of_mem, checkCall]
  split
  · rename_i hcontains
    exact iff_of_true rfl hcontains
  · rename_i hcontains
    exact iff_of_false (by simp) hcontains

/-! ## Containers and targets -/

/-- What begins with a character that the front does not hold is found behind the front. -/
theorem infix_append_iff {first : Char} {part front back : List Char} (h : first ∉ front) :
    first :: part <:+: front ++ back ↔ first :: part <:+: back := by
  induction front with
  | nil => rfl
  | cons c front ih =>
    rw [List.mem_cons, not_or] at h
    rw [List.cons_append, List.infix_cons_iff, ih h.2, or_iff_right]
    exact fun hprefix => h.1 (List.cons_prefix_cons.mp hprefix).1

section Last

variable {first : Char} {part cs before after : List Char}

theorem splitAtLast?_eq_none_iff : splitAtLast? (first :: part) cs = none ↔ ¬ first :: part <:+: cs := by
  induction cs with
  | nil => simp [splitAtLast?]
  | cons c cs ih =>
    rw [List.infix_cons_iff, not_or, ← ih, ← List.isPrefixOf_iff_prefix, splitAtLast?]
    cases splitAtLast? (first :: part) cs with
    | some pair => simp
    | none => simp [after?]

/-- **The last occurrence** of a part that holds its first character once only. -/
theorem splitAtLast?_eq_some_iff (h : first ∉ part) : splitAtLast? (first :: part) cs = some (before, after) ↔
    cs = before ++ (first :: part ++ after) ∧ ¬ first :: part <:+: after := by
  induction cs generalizing before with
  | nil => simp [splitAtLast?]
  | cons c cs ih =>
    rw [splitAtLast?]
    cases hlater : splitAtLast? (first :: part) cs with
    | some pair =>
      obtain ⟨front, back⟩ := pair
      have hfound : first :: part <:+: cs := by
        by_contra hmissing
        rw [splitAtLast?_eq_none_iff.mpr hmissing] at hlater
        exact absurd hlater (by simp)
      cases before with
      | nil =>
        refine iff_of_false (by simp) ?_
        rintro ⟨htext, hlast⟩
        obtain ⟨-, rfl⟩ := List.cons.inj htext
        exact hlast ((infix_append_iff h).mp hfound)
      | cons d before =>
        simp only [hlater, Option.some.injEq, Prod.mk.injEq, List.cons.injEq, List.cons_append, and_assoc] at ih ⊢
        rw [← ih]
    | none =>
      have hmissing := splitAtLast?_eq_none_iff.mp hlater
      rw [Option.map_eq_some_iff]
      constructor
      · rintro ⟨back, hback, hpair⟩
        obtain ⟨rfl, rfl⟩ := Prod.mk.inj hpair
        have htext := after?_eq_some_iff.mp hback
        refine ⟨htext, fun hfound => hmissing ?_⟩
        obtain ⟨-, rfl⟩ := List.cons.inj htext
        exact hfound.trans (List.suffix_append _ _).isInfix
      · rintro ⟨htext, -⟩
        cases before with
        | nil => exact ⟨after, after?_eq_some_iff.mpr htext, rfl⟩
        | cons d before =>
          obtain ⟨-, rfl⟩ := List.cons.inj htext
          exact absurd ⟨before, after, List.append_assoc _ _ _⟩ hmissing

end Last

/-- **The container and the target** that are seen. -/
theorem scrollable?_eq_some_iff {cs container target : List Char} :
    scrollable? cs = some (container, target) ↔ Scrolls cs container target ∧ Plain container target := by
  have hmiddle : scrollableMiddle = ')' :: ".scrollIntoView(".toList := by decide
  have hfeed : '\n' ∉ scrollableMiddle := by decide
  have hlast : ∀ {cs}, splitAtLast? scrollableMiddle cs = some (container, target) ↔
      cs = container ++ (scrollableMiddle ++ target) ∧ ¬ scrollableMiddle <:+: target := by
    rw [hmiddle]
    exact splitAtLast?_eq_some_iff (by decide)
  unfold scrollable? Scrolls
  constructor
  · intro h
    split at h
    · exact absurd h (by simp)
    · rename_i rest hrest
      split at h
      · exact absurd h (by simp)
      · rename_i hends
        simp only [Bool.or_eq_true, List.contains_iff_mem, bne_iff_ne, ne_eq, not_or, not_not] at hends
        obtain ⟨hplain, hclose⟩ := hends
        obtain ⟨htext, hmissing⟩ := hlast.mp h
        have hwhole : rest = container ++ (scrollableMiddle ++ (target ++ [')'])) := by
          rw [← List.dropLast_append_getLast? ')' hclose, htext]
          simp only [List.append_assoc]
        refine ⟨?_, ⟨fun hmem => hplain ?_, fun hmem => hplain ?_⟩, hmissing⟩
        · rw [after?_eq_some_iff.mp hrest, hwhole]
        · rw [hwhole]
          simp [hmem]
        · rw [hwhole]
          simp [hmem]
  · rintro ⟨htext, hplain⟩
    have hwhole : container ++ (scrollableMiddle ++ (target ++ [')'])) =
        (container ++ (scrollableMiddle ++ target)) ++ [')'] := by simp only [List.append_assoc]
    rw [hwhole] at htext
    rw [after?_eq_some_iff.mpr htext]
    dsimp only
    rw [if_neg, List.dropLast_concat]
    · exact hlast.mpr ⟨rfl, hplain.last⟩
    · simp [hplain.unbroken, hfeed]

/-- No call begins like a container that is scrolled. -/
theorem Scrolls.not_calls {cs container target : List Char} (h : Scrolls cs container target)
    (behind : List Char → Prop) : ∀ method ∈ methods, ¬ Calls behind method cs := by
  rintro method hmethod ⟨opening, hopening, rest, htext, -⟩
  have hprefix : scrollableOpening <+: opening ++ (method.toList ++ rest) := ⟨_, h.symm.trans htext⟩
  rcases List.mem_pair.mp hopening with rfl | rfl
  · exact (isMethod_of_mem hmethod).not_begins (by decide) rest hprefix
  · have hlength : scrollableOpening.length ≤ constructorPart.length := by decide
    have hshort := List.prefix_of_prefix_length_le hprefix (List.prefix_append _ _) hlength
    exact absurd hshort (by decide)

/-! ## The check -/

/-- **The selectors that are accepted**, by their text. -/
theorem check_eq_ok_iff {selector : String} : check selector = .ok () ↔ Accepted selector.toList := by
  unfold check
  cases hscroll : scrollable? selector.toList with
  | none =>
    dsimp only
    rw [checkCall_eq_ok_iff]
    constructor
    · rintro ⟨method, hmethod, hcalls⟩
      exact .call hmethod hcalls
    · rintro (⟨hmethod, hcalls⟩ | ⟨hscrolls, hplain, -⟩)
      · exact ⟨_, hmethod, hcalls⟩
      · rw [scrollable?_eq_some_iff.mpr ⟨hscrolls, hplain⟩] at hscroll
        exact absurd hscroll (by simp)
  | some pair =>
    obtain ⟨container, target⟩ := pair
    obtain ⟨hscrolls, hplain⟩ := scrollable?_eq_some_iff.mp hscroll
    have hpicks := @contains_methodName_iff containerMethods container fun method hmethod =>
      isMethod_of_mem (containerMethods_subset method hmethod)
    dsimp only
    constructor
    · intro h
      split at h
      · rename_i hcontains
        obtain ⟨picker, hpicker, hcontainer⟩ := hpicks.mp hcontains
        obtain ⟨method, hmethod, htarget⟩ := checkCall_eq_ok_iff.mp h
        exact .scroll hscrolls hplain hpicker hcontainer hmethod htarget
      · exact absurd h (by simp)
    · rintro (⟨hmethod, hcalls⟩ | ⟨hscrolls', hplain', hpicker, hcontainer, hmethod, htarget⟩)
      · exact absurd hcalls (hscrolls.not_calls Opens _ hmethod)
      · have hpair := scrollable?_eq_some_iff.mpr ⟨hscrolls', hplain'⟩
        obtain ⟨rfl, rfl⟩ := Prod.mk.inj (Option.some.inj (hscroll.symm.trans hpair))
        rw [if_pos (hpicks.mpr ⟨_, hpicker, hcontainer⟩), checkCall_eq_ok_iff]
        exact ⟨_, hmethod, htarget⟩

/-- How the check judges a selector. -/
structure Judges (selector : String) : Prop where
  accepts : check selector = .ok () ↔ Accepted selector.toList
  /-- What is documented is accepted, unless it scrolls a container to a target that are not plain. -/
  documented : Documented selector.toList → check selector = .ok () ∨
    ∃ container target, Scrolls selector.toList container target ∧ ¬ Plain container target

/-- **The check and what is documented.** The check accepts a language that differs from the documented one in two
ways: nothing is asked of what stands behind the name of a method but that it begins with a parenthesis, if there
is anything; and the parts of what is scrolled have to be plain. -/
theorem check_judges (selector : String) : Judges selector where
  accepts := check_eq_ok_iff
  documented := by
    rintro (⟨hmethod, hcall⟩ | @⟨container, target, _, _, hscroll, -, hpicker, hcontainer, hmethod, htarget⟩)
    · exact .inl (check_eq_ok_iff.mpr (.call hmethod (hcall.imp fun _ => Closed.opens)))
    · by_cases hplain : Plain container target
      · exact .inl (check_eq_ok_iff.mpr (.scroll hscroll hplain hpicker (hcontainer.imp fun _ => Closed.opens)
          hmethod (htarget.imp fun _ => Closed.opens)))
      · exact .inr ⟨container, target, hscroll, hplain⟩

/-- A text that calls a method is not documented if its arguments are not all that stands behind the name. -/
theorem not_documented {method : String} {cs : List Char} (rest : List Char) (hmethod : method ∈ methods)
    (htext : Text.trim cs = method.toList ++ rest) (hopens : Opens rest) (hclosed : ¬ Closed rest) :
    ¬ Documented cs := by
  have hcalls : Calls Opens method cs := ⟨[], by simp, rest, htext, hopens⟩
  rintro (⟨hmethod', hcall⟩ | ⟨hscroll, -⟩)
  · -- the text calls one method only
    have hname := (methodName_eq_iff (isMethod_of_mem hmethod)).mpr hcalls
    have hname' := (methodName_eq_iff (isMethod_of_mem hmethod')).mpr (hcall.imp fun _ => Closed.opens)
    obtain rfl := String.toList_inj.mp (hname.symm.trans hname')
    obtain ⟨opening, hopening, rest', htext', hclosed'⟩ := hcall
    rw [htext] at htext'
    rcases List.mem_pair.mp hopening with rfl | rfl
    · exact hclosed (List.append_cancel_left htext' ▸ hclosed')
    · exact (isMethod_of_mem hmethod).not_begins rfl rest ⟨_, htext'.symm⟩
  · exact hscroll.not_calls Opens method hmethod hcalls

/-- A container with the constructor in front, scrolled to a target without. -/
theorem scrolled_judged :
    Documented "new UiScrollable(new UiSelector().scrollable(true)).scrollIntoView(text(\"(a\"))".toList ∧
    check "new UiScrollable(new UiSelector().scrollable(true)).scrollIntoView(text(\"(a\"))" = .ok () := by
  have hselects : Selects Closed Plain
      "new UiScrollable(new UiSelector().scrollable(true)).scrollIntoView(text(\"(a\"))".toList := by
    refine @Selects.scroll _ _ _ "new UiSelector().scrollable(true)".toList "text(\"(a\")".toList "scrollable" "text"
      (by decide) ⟨by decide, by decide⟩ (by decide) ?_ (by decide) ?_
    · exact ⟨constructorPart, by simp, "(true)".toList, by decide, by decide⟩
    · exact ⟨[], by simp, "(\"(a\")".toList, by decide, by decide⟩
  exact ⟨hselects.imp (fun _ h => h) fun _ _ _ => trivial,
    (check_judges _).accepts.mpr (hselects.imp (fun _ => Closed.opens) fun _ _ h => h)⟩

/-- **Where the check and what is documented differ.** A name without parentheses is accepted, and so are two calls
in a row. A line feed in the text of a target is refused, and so is a text that could stand between a container and
its target. -/
theorem check_misjudges :
    (check "text" = .ok () ∧ ¬ Documented "text".toList) ∧
    (check "text(\"a\").className(\"b\")" = .ok () ∧ ¬ Documented "text(\"a\").className(\"b\")".toList) ∧
    (check "new UiScrollable(scrollable(true)).scrollIntoView(text(\"a\nb\"))" ≠ .ok () ∧
      Documented "new UiScrollable(scrollable(true)).scrollIntoView(text(\"a\nb\"))".toList) ∧
    check "new UiScrollable(scrollable(true)).scrollIntoView(text(\"a).scrollIntoView(b\"))" ≠ .ok () ∧
      Documented "new UiScrollable(scrollable(true)).scrollIntoView(text(\"a).scrollIntoView(b\"))".toList := by
  have htext : "text" ∈ methods := by decide
  have hscrolls : ∀ {cs target rest : List Char}, Scrolls cs "scrollable(true)".toList target →
      Text.trim target = "text".toList ++ rest → Closed rest → Documented cs := by
    intro cs target rest hscroll htarget hclosed
    have hpicker : "scrollable" ∈ containerMethods := by decide
    exact .scroll hscroll trivial hpicker ⟨[], by simp, "(true)".toList, by decide, by decide⟩ htext
      ⟨[], by simp, rest, htarget, hclosed⟩
  have hfeed : Scrolls "new UiScrollable(scrollable(true)).scrollIntoView(text(\"a\nb\"))".toList
      "scrollable(true)".toList "text(\"a\nb\")".toList := by decide
  have hnested : Scrolls "new UiScrollable(scrollable(true)).scrollIntoView(text(\"a).scrollIntoView(b\"))".toList
      "scrollable(true)".toList "text(\"a).scrollIntoView(b\")".toList := by decide
  refine ⟨⟨by decide, ?_⟩, ⟨by decide, ?_⟩, ⟨by decide, ?_⟩, by decide, ?_⟩
  · exact not_documented [] htext (by decide) (by decide) (by decide)
  · exact not_documented "(\"a\").className(\"b\")".toList htext (by decide) (by decide) (by decide)
  · exact hscrolls hfeed (by decide : _ = "text".toList ++ "(\"a\nb\")".toList) (by decide)
  · exact hscrolls hnested (by decide : _ = "text".toList ++ "(\"a).scrollIntoView(b\")".toList) (by decide)

end PageObjects.UiAutomator
