import PageObjects.Files.Pattern

/-!
# What name patterns match

The glyphs of a pattern take what they match from the front of a name, and all that may remain is
kept. Glyphs that are characters leave what follows them, so that a pattern of one star and a text
matches the names that end in the text.

* `Pattern.mem_foldl_advance`: what remains after characters.
* `Pattern.admits_ending`: the names that end in a text.
-/

namespace PageObjects.Pattern

theorem mem_remainders {cs : List Char} : ∀ {name : List Char}, cs ∈ remainders name ↔ cs <:+ name
  | [] => by rw [remainders, List.mem_singleton, List.suffix_nil]
  | c :: name => by
    rw [remainders, List.mem_cons, mem_remainders, List.suffix_cons_iff]

theorem mem_advance_char {reached : List (List Char)} {c : Char} {rest : List Char} :
    rest ∈ advance reached (.char c) ↔ c :: rest ∈ reached := by
  unfold advance
  dsimp only
  rw [List.mem_filterMap]
  constructor
  · rintro ⟨cs, hcs, hrest⟩
    cases cs with
    | nil => exact absurd hrest (by simp)
    | cons d cs =>
      dsimp only at hrest
      split at hrest
      · rename_i hadmits
        obtain rfl : d = c := beq_iff_eq.mp hadmits
        obtain rfl := Option.some.inj hrest
        exact hcs
      · exact absurd hrest (by simp)
  · intro h
    exact ⟨c :: rest, h, if_pos (beq_self_eq_true c)⟩

/-- Characters are taken from the front of what remained before. -/
theorem mem_foldl_advance {text rest : List Char} {reached : List (List Char)} :
    rest ∈ (text.map Glyph.char).foldl advance reached ↔ text ++ rest ∈ reached := by
  induction text generalizing reached with
  | nil => rfl
  | cons c text ih => rw [List.map_cons, List.foldl_cons, ih, mem_advance_char, List.cons_append]

/-- **A star and a text match the names that end in the text.** -/
theorem admits_ending {text name : List Char} :
    admits (.anyText :: text.map .char) name = true ↔ text <:+ name := by
  rw [admits, List.contains_iff_mem, List.foldl_cons, mem_foldl_advance, List.append_nil]
  exact mem_remainders

end PageObjects.Pattern
