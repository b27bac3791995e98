import Mathlib.Data.List.Sort
import Mathlib.Data.String.Basic
import PageObjects.Text.Quoted

/-!
# Sorted texts

Texts are listed in order, each once.

* `Text.mem_listed`: nothing is lost.
* `Text.listed_increasing`: each text comes before the next.
-/

namespace PageObjects

theorem nodup_eraseDups {α : Type} [DecidableEq α] : ∀ items : List α, items.eraseDups.Nodup
  | [] => by simp
  | item :: items => by
    rw [List.eraseDups_cons, List.nodup_cons]
    refine ⟨?_, nodup_eraseDups _⟩
    rw [List.mem_eraseDups, List.mem_filter]
    simp
termination_by items => items.length
decreasing_by exact Nat.lt_succ_of_le (List.length_filter_le _ _)

namespace Text

theorem mem_listed {texts : List String} {text : String} : text ∈ sorted texts.eraseDups ↔ text ∈ texts :=
  List.mem_mergeSort.trans List.mem_eraseDups

/-- **Sorted texts increase** if each is there once. -/
theorem listed_increasing (texts : List String) : (sorted texts.eraseDups).Pairwise (· < ·) := by
  have hordered : (sorted texts.eraseDups).Pairwise (· ≤ ·) := List.pairwise_mergeSort' (· ≤ ·) _
  have hnodup : (sorted texts.eraseDups).Nodup :=
    (List.mergeSort_perm _ _).nodup_iff.mpr (nodup_eraseDups texts)
  exact hordered.imp₂ (fun _ _ hle hne => lt_of_le_of_ne hle hne) hnodup

end Text

end PageObjects
