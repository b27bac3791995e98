import Mathlib.Data.List.Infix
import PageObjects.Text.Blank

/-!
# Lines of texts

A text is cut at every mandatory line break. Its lines hold no break, and one after the other they are the text
without its breaks. What holds no break itself is therefore found in the text exactly if it is found in a line.

* `Text.flatten_lines`: the lines one after the other.
* `Text.infix_lines_iff`: what is found in a text and in its lines.
* `Text.lines_unbroken`: a text without a break is its own only line.
-/

namespace PageObjects.Text

theorem unbroken_of_all {cs : List Char} (h : (cs.all fun c => !isLineBreak c) = true) :
    ∀ c ∈ cs, isLineBreak c = false := by simpa using h

/-- What does not hold a character is found on either side of it. -/
theorem infix_append_cons_iff {α : Type} {part front back : List α} {c : α} (h : c ∉ part) :
    part <:+: front ++ c :: back ↔ part <:+: front ∨ part <:+: back := by
  -- at the beginning of such a list, the part ends before the character
  have hstart : ∀ front : List α, part <+: front ++ c :: back → part <+: front := by
    intro front hpart
    rcases Nat.le_total part.length front.length with hlength | hlength
    · exact List.prefix_of_prefix_length_le hpart (List.prefix_append _ _) hlength
    · obtain ⟨rest, rfl⟩ := List.prefix_of_prefix_length_le (List.prefix_append _ _) hpart hlength
      rw [List.prefix_append_right_inj] at hpart
      cases rest with
      | nil => rw [List.append_nil]
      | cons d rest =>
        obtain ⟨rfl, -⟩ := List.cons_prefix_cons.mp hpart
        exact absurd (List.mem_append_right _ List.mem_cons_self) h
  induction front with
  | nil =>
    rw [List.nil_append, List.infix_cons_iff]
    exact or_congr_left ⟨fun hpart => (hstart [] hpart).isInfix,
      fun hpart => List.infix_nil.mp hpart ▸ List.nil_prefix⟩
  | cons a front ih =>
    have hfirst : part <+: a :: (front ++ c :: back) ↔ part <+: a :: front :=
      ⟨hstart (a :: front), fun hpart => hpart.trans (List.prefix_append (a :: front) _)⟩
    rw [List.cons_append, List.infix_cons_iff, List.infix_cons_iff, or_assoc]
    exact or_congr hfirst ih

theorem flatten_linesFrom (line cs : List Char) :
    (linesFrom line cs).flatten = line.reverse ++ cs.filter fun c => !isLineBreak c := by
  fun_induction linesFrom line cs with
  | case1 line hline => simp_all
  | case2 line hline => simp
  | case3 line rest ih =>
    rw [List.flatten_cons, ih]
    rfl
  | case4 line c rest _ hbreak ih =>
    rw [List.flatten_cons, ih, List.filter_cons_of_neg (by simp [hbreak])]
    rfl
  | case5 line c rest _ hbreak ih =>
    rw [ih, List.filter_cons_of_pos (by simpa using hbreak), List.reverse_cons, List.append_assoc]
    rfl

/-- One after the other, the lines are the text without its breaks. -/
theorem flatten_lines (text : String) :
    (lines text).flatMap String.toList = text.toList.filter fun c => !isLineBreak c := by
  rw [lines, List.flatMap_map]
  simp only [String.toList_ofList, List.flatMap_id', flatten_linesFrom]
  rfl

/-- No line holds a break. -/
theorem isLineBreak_of_mem_lines {text line : String} (h : line ∈ lines text) {c : Char}
    (hc : c ∈ line.toList) : isLineBreak c = false := by
  have hmem : c ∈ (lines text).flatMap String.toList := List.mem_flatMap.mpr ⟨line, h, hc⟩
  rw [flatten_lines] at hmem
  simpa using (List.mem_filter.mp hmem).2

theorem infix_linesFrom_iff {part line cs : List Char} (hne : part ≠ [])
    (h : ∀ c ∈ part, isLineBreak c = false) :
    (∃ l ∈ linesFrom line cs, part <:+: l) ↔ part <:+: line.reverse ++ cs := by
  have hbreak : ∀ c, isLineBreak c = true → c ∉ part := by
    intro c hc hmem
    rw [h c hmem] at hc
    cases hc
  fun_induction linesFrom line cs with
  | case1 line hline =>
    obtain rfl := List.isEmpty_iff.mp hline
    simpa using hne
  | case2 line hline => simp
  | case3 line rest ih =>
    have hfeed : ∀ back, part <:+: '\n' :: back ↔ part <:+: back := by
      intro back
      have hiff : part <:+: [] ++ '\n' :: back ↔ part <:+: [] ∨ part <:+: back :=
        infix_append_cons_iff (hbreak '\n' (by decide))
      rw [List.nil_append, List.infix_nil] at hiff
      simpa [hne] using hiff
    rw [infix_append_cons_iff (hbreak '\r' (by decide)), hfeed]
    simpa using or_congr_right ih
  | case4 line c rest _ hc ih =>
    rw [infix_append_cons_iff (hbreak c hc)]
    simpa using or_congr_right ih
  | case5 line c rest _ hc ih =>
    refine ih.trans ?_
    rw [List.reverse_cons, List.append_assoc]
    rfl

/-- **What holds no break is found in a line**, if it is found in the text. -/
theorem infix_lines_iff {part : List Char} {text : String} (hne : part ≠ [])
    (h : ∀ c ∈ part, isLineBreak c = false) :
    (∃ line ∈ lines text, part <:+: line.toList) ↔ part <:+: text.toList := by
  rw [← List.nil_append text.toList, ← List.reverse_nil, ← infix_linesFrom_iff hne h, lines]
  simp

theorem linesFrom_feed {line cs : List Char} (h : ∀ c ∈ cs, isLineBreak c = false) (rest : List Char) :
    linesFrom line (cs ++ '\n' :: rest) = (line.reverse ++ cs) :: linesFrom [] rest := by
  induction cs generalizing line with
  | nil =>
    rw [List.nil_append, List.append_nil, linesFrom]
    · rfl
    · exact fun _ hfeed => absurd hfeed (by decide)
  | cons c cs ih =>
    rw [List.forall_mem_cons] at h
    rw [List.cons_append, linesFrom, if_neg (by simp [h.1]), ih h.2, List.reverse_cons, List.append_assoc]
    · rfl
    · rintro rest rfl
      exact absurd h.1 (by decide)

theorem linesFrom_unbroken {line cs : List Char} (hne : line ≠ [] ∨ cs ≠ [])
    (h : ∀ c ∈ cs, isLineBreak c = false) : linesFrom line cs = [line.reverse ++ cs] := by
  fun_induction linesFrom line cs with
  | case1 line hline => simp_all
  | case2 line hline => simp
  | case3 line rest ih => exact absurd (h '\r' List.mem_cons_self) (by decide)
  | case4 line c rest _ hc ih => exact absurd (h c List.mem_cons_self) (by simp [hc])
  | case5 line c rest _ hc ih =>
    rw [ih (.inl (List.cons_ne_nil _ _)) fun d hd => h d (List.mem_cons_of_mem _ hd), List.reverse_cons,
      List.append_assoc]
    rfl

/-- A text without a break is its own only line. -/
theorem lines_unbroken {text : String} (hne : text ≠ "") (h : ∀ c ∈ text.toList, isLineBreak c = false) :
    lines text = [text] := by
  rw [lines, linesFrom_unbroken (.inr (by simpa using hne)) h]
  simp

end PageObjects.Text
