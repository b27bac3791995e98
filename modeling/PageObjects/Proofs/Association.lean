import Mathlib.Data.List.Nodup

/-!
# Lists of keys and values

A value is put under a key in place of the one that is there, or else at the end of the list. Items that have
keys of their own are found by them.

* `mem_of_lookup`: what stands under a key is in the list.
* `lookup_put`: putting a value changes what stands under its key alone.
* `find?_key_eq_some_iff`: what is found by a key.
-/

namespace PageObjects

variable {α β : Type} [DecidableEq α]

theorem mem_of_lookup {entries : List (α × β)} {k : α} {value : β}
    (h : entries.lookup k = some value) : (k, value) ∈ entries := by
  obtain ⟨before, after, rfl, -⟩ := List.lookup_eq_some_iff.mp h
  simp

theorem lookup_map_put (entries : List (α × β)) (k q : α) (value : β) :
    (entries.map fun entry => if entry.1 == k then (k, value) else entry).lookup q =
      if q = k then (entries.lookup k).map fun _ => value else entries.lookup q := by
  induction entries with
  | nil => split <;> rfl
  | cons entry entries ih =>
    obtain ⟨key, old⟩ := entry
    rw [List.map_cons]
    by_cases hkey : key = k
    · subst hkey
      rw [if_pos (beq_self_eq_true key), List.lookup_cons, List.lookup_cons, List.lookup_cons, ih]
      by_cases hq : q = key
      · rw [hq, beq_self_eq_true, if_pos rfl, if_pos rfl]; rfl
      · rw [beq_false_of_ne hq, if_neg hq, if_neg hq]
    · rw [beq_false_of_ne hkey, if_neg Bool.false_ne_true, List.lookup_cons, List.lookup_cons,
        List.lookup_cons, ih, beq_false_of_ne (Ne.symm hkey)]
      by_cases hq : q = k
      · rw [if_pos hq, if_pos hq, hq, beq_false_of_ne (Ne.symm hkey)]
      · rw [if_neg hq, if_neg hq]

/-- **Putting a value under a key** changes what stands there alone. -/
theorem lookup_put (entries : List (α × β)) (k q : α) (value : β) :
    (if (entries.lookup k).isSome then
        entries.map fun entry => if entry.1 == k then (k, value) else entry
      else entries ++ [(k, value)]).lookup q = if q = k then some value else entries.lookup q := by
  by_cases hold : (entries.lookup k).isSome
  · obtain ⟨old, hold⟩ := Option.isSome_iff_exists.mp hold
    rw [hold, Option.isSome_some, if_pos rfl, lookup_map_put, hold, Option.map_some]
  · rw [Option.not_isSome_iff_eq_none] at hold
    rw [hold, Option.isSome_none, if_neg Bool.false_ne_true, List.lookup_append]
    by_cases hq : q = k
    · rw [if_pos hq, hq, hold, List.lookup_cons_self, Option.none_or]
    · have hnone : List.lookup q [(k, value)] = none := by
        rw [List.lookup_cons, beq_false_of_ne hq]; rfl
      rw [if_neg hq, hnone, Option.or_none]

/-- Among items with different keys, an item is found by its key. -/
theorem find?_key_eq_some_iff {items : List β} {key : β → α} (h : (items.map key).Nodup) {k : α} {item : β} :
    items.find? (fun item => key item == k) = some item ↔ item ∈ items ∧ key item = k := by
  have hfound : ∀ {item}, items.find? (fun item => key item == k) = some item → item ∈ items ∧ key item = k :=
    fun hfind => ⟨List.mem_of_find?_eq_some hfind, by simpa using List.find?_some hfind⟩
  refine ⟨hfound, ?_⟩
  rintro ⟨hitem, hkey⟩
  have hsome : (items.find? fun item => key item == k).isSome = true :=
    List.find?_isSome.mpr ⟨item, hitem, by simpa using hkey⟩
  obtain ⟨other, hother⟩ := Option.isSome_iff_exists.mp hsome
  obtain ⟨hmem, hkey'⟩ := hfound hother
  rw [hother, List.inj_on_of_nodup_map h hmem hitem (hkey'.trans hkey.symm)]

end PageObjects
