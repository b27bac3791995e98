import PageObjects.Files.Path

/-!
# Parts of texts

A text that is split at a separator falls into parts that hold none, and texts with separators between
them fall into the parts of each.
-/

namespace PageObjects

/-- The parts between separators hold no separator, and only characters of the whole. -/
theorem Text.of_mem_splitOnP {p : Char → Bool} {cs part : List Char} (hpart : part ∈ cs.splitOnP p) :
    ∀ c ∈ part, p c = false ∧ c ∈ cs := by
  induction cs generalizing part with
  | nil =>
    rw [List.splitOnP_nil, List.mem_singleton] at hpart
    simp [hpart]
  | cons first cs ih =>
    have hlater : ∀ {part}, part ∈ cs.splitOnP p → ∀ c ∈ part, p c = false ∧ c ∈ first :: cs :=
      fun hmem c hc => ⟨(ih hmem c hc).1, List.mem_cons_of_mem first (ih hmem c hc).2⟩
    rw [List.splitOnP_cons_eq_if_modifyHead] at hpart
    by_cases hfirst : p first
    · rw [if_pos hfirst] at hpart
      rcases List.mem_cons.mp hpart with rfl | hpart
      · simp
      · exact hlater hpart
    · rw [if_neg hfirst] at hpart
      cases hsplit : cs.splitOnP p with
      | nil => exact absurd hsplit (List.splitOnP_ne_nil p cs)
      | cons head tail =>
        rw [hsplit, List.modifyHead_cons] at hpart
        rcases List.mem_cons.mp hpart with rfl | hpart
        · intro c hc
          rcases List.mem_cons.mp hc with rfl | hc
          · exact ⟨by simpa using hfirst, by simp⟩
          · exact hlater (by rw [hsplit]; simp) c hc
        · exact hlater (by rw [hsplit]; exact List.mem_cons_of_mem head hpart)

/-- A character that is no separator is in some part. -/
theorem Text.exists_part_of_mem {p : Char → Bool} {cs : List Char} {c : Char} (hc : c ∈ cs)
    (hp : p c = false) : ∃ part ∈ cs.splitOnP p, c ∈ part := by
  induction cs with
  | nil => exact absurd hc List.not_mem_nil
  | cons first cs ih =>
    rw [List.splitOnP_cons_eq_if_modifyHead]
    cases hsplit : cs.splitOnP p with
    | nil => exact absurd hsplit (List.splitOnP_ne_nil p cs)
    | cons head tail =>
      rw [hsplit] at ih
      rcases List.mem_cons.mp hc with rfl | hlater
      · rw [hp, if_neg Bool.false_ne_true, List.modifyHead_cons]
        exact ⟨_, List.mem_cons_self, List.mem_cons_self⟩
      · obtain ⟨part, hpart, hmem⟩ := ih hlater
        split
        · exact ⟨part, List.mem_cons_of_mem _ hpart, hmem⟩
        · rw [List.modifyHead_cons]
          rcases List.mem_cons.mp hpart with rfl | hpart
          · exact ⟨_, List.mem_cons_self, List.mem_cons_of_mem first hmem⟩
          · exact ⟨part, List.mem_cons_of_mem _ hpart, hmem⟩

namespace ResultType

theorem of_mem_parts {separator : Char} {text part : String} (h : part ∈ parts separator text) :
    separator ∉ part.toList ∧ ∀ c ∈ part.toList, c ∈ text.toList := by
  obtain ⟨cs, hcs, rfl⟩ := List.mem_map.mp h
  rw [List.splitOn_eq_splitOnP] at hcs
  have hchars := Text.of_mem_splitOnP hcs
  rw [String.toList_ofList]
  exact ⟨fun hmem => absurd (hchars separator hmem).1 (by simp), fun c hc => (hchars c hc).2⟩

theorem parts_of_notMem {separator : Char} {text : String} (h : separator ∉ text.toList) :
    parts separator text = [text] := by
  rw [parts, List.splitOn_eq_singleton h, List.map_singleton, String.ofList_toList]

/-- The parts of texts with separators between them are the parts of each. -/
theorem parts_intercalate {separator : Char} {texts : List String} (h : texts ≠ []) :
    parts separator ((String.singleton separator).intercalate texts) =
      texts.flatMap (parts separator) := by
  induction texts with
  | nil => exact absurd rfl h
  | cons text texts ih =>
    by_cases htexts : texts = []
    · simp [htexts]
    · rw [String.intercalate_cons_of_ne_nil htexts, List.flatMap_cons, ← ih htexts, parts, parts,
        parts, String.toList_append, String.toList_append, String.toList_singleton,
        List.append_assoc, List.singleton_append, List.splitOn_append_cons_self, List.map_append]

end ResultType

/-- A text with a character that is neither a slash nor a point is a path of some components. -/
theorem Path.parts_ofText_ne_nil {text : String} {c : Char} (hc : c ∈ text.toList) (hslash : c ≠ '/')
    (hpoint : c ≠ '.') : (Path.ofText text).parts ≠ [] := by
  obtain ⟨part, hpart, hmem⟩ := Text.exists_part_of_mem (p := (· == '/')) hc (by simpa using hslash)
  rw [← List.splitOn_eq_splitOnP] at hpart
  have hcomponent : String.ofList part ∈ (Path.ofText text).parts := by
    refine List.mem_filter.mpr ⟨List.mem_map_of_mem hpart, ?_⟩
    rw [Bool.and_eq_true, Bool.not_eq_true', bne_iff_ne]
    constructor
    · rw [← Bool.not_eq_true, String.isEmpty_iff]
      intro hempty
      rw [← String.toList_ofList (l := part), hempty] at hmem
      exact absurd hmem (by simp)
    · intro hone
      rw [← String.toList_ofList (l := part), hone] at hmem
      exact hpoint (by simpa using hmem)
  exact List.ne_nil_of_mem hcomponent

/-- The components of a text's path hold no slash. -/
theorem Path.slash_notMem_ofText {text component : String}
    (h : component ∈ (Path.ofText text).parts) : '/' ∉ component.toList :=
  (ResultType.of_mem_parts (List.mem_filter.mp h).1).1

end PageObjects
