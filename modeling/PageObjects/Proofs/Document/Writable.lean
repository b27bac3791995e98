import Mathlib.Data.Nat.Digits.Defs
import PageObjects.Proofs.Document.Reading

/-!
# What a document can be written with

An integer is written in decimal, and not with more digits than `Text.digitLimit`. A document keeps the
integers of the value that it is read from, as constants of its statements at any depth, or has those that
stand for numbers with a point, which fit 64 bits. A selector is written with its text, and has one.

* `Json.isWritable`: the values whose integers can be written.
* `Statement.Writable`: the statements whose constants can be written, those of predicates included.
* **`Document.read_writable`**: a document that is read from a writable value is writable.
-/

namespace PageObjects

open Reading

/-- The integer has no more digits than can be written. -/
def Text.isWritable (n : Int) : Bool := (Nat.toDigits 10 n.natAbs).length ≤ digitLimit

mutual

/-- All integers in the value can be written. -/
def Json.isWritable : Json → Bool
  | .int n => Text.isWritable n
  | .list items => writableItems items
  | .object fields => writableFields fields
  | _ => true

/-- All integers in the items can be written. -/
def writableItems : List Json → Bool
  | [] => true
  | item :: rest => item.isWritable && writableItems rest

/-- All integers in the fields can be written. -/
def writableFields : List (String × Json) → Bool
  | [] => true
  | (_, value) :: rest => value.isWritable && writableFields rest

end

theorem Json.isWritable_list {items : List Json} :
    (Json.list items).isWritable = true ↔ ∀ item ∈ items, item.isWritable = true := by
  rw [isWritable]
  induction items with
  | nil => simp [writableItems]
  | cons item rest ih => rw [writableItems, Bool.and_eq_true, ih, List.forall_mem_cons]

theorem Json.isWritable_object {fields : Fields} :
    (Json.object fields).isWritable = true ↔ ∀ field ∈ fields, field.2.isWritable = true := by
  rw [isWritable]
  induction fields with
  | nil => simp [writableFields]
  | cons field rest ih => rw [writableFields, Bool.and_eq_true, ih, List.forall_mem_cons]

/-- An integer of 64 bits has few digits. -/
theorem Text.isWritable_of_inside64 {n : Int} (h : inside64 n = true) : isWritable n = true := by
  have hbound : n.natAbs < 10 ^ 19 := by
    obtain ⟨hlow, hhigh⟩ := Bool.and_eq_true_iff.mp h
    have hlow := of_decide_eq_true hlow
    have hhigh := of_decide_eq_true hhigh
    simp only [bound64] at hlow hhigh
    omega
  have hlength := Nat.toDigits_length 10 n.natAbs 19 (by decide) hbound
  exact decide_eq_true (hlength.trans (by decide))

/-! ## Arguments -/

/-- The constant can be written. -/
def Literal.isWritable : Literal → Bool
  | .int n => Text.isWritable n
  | _ => true

/-- The argument is a parameter, or a constant that can be written. -/
def Argument.isWritable : Argument → Bool
  | .literal value _ => value.isWritable
  | .parameter _ _ => true

theorem inside64_of_readWholeReal {r : Binary64} {n : Int} (h : readWholeReal r = .done n) :
    inside64 n = true := by
  unfold readWholeReal at h
  split at h
  · split at h
    · split at h
      · rename_i hinside
        exact Reading.done.inj h ▸ hinside
      · exact absurd h fault_ne_done
    · exact absurd h fault_ne_done
  · exact absurd h fault_ne_done

theorem Literal.read_writable {v : Json} {l : Literal} (hv : v.isWritable = true)
    (h : read v = .done l) : l.isWritable = true := by
  unfold read at h
  split at h
  · obtain rfl := Reading.done.inj h
    rfl
  · obtain rfl := Reading.done.inj h
    exact hv
  · obtain rfl := Reading.done.inj h
    rfl
  · split at h
    · rename_i n hn
      have hn : Text.isWritable n = true :=
        Text.isWritable_of_inside64 (inside64_of_readWholeReal hn)
      obtain rfl := Reading.done.inj h
      split
      · rfl
      · split
        · rfl
        · exact hn
    · exact absurd h (by simp [refuse])
  · exact absurd h (by simp [refuse])

theorem Argument.isWritable_of_ofFields {given : Option String × Option String × Option Literal}
    {a : Argument} (hgiven : ∀ value ∈ given.2.2, value.isWritable = true)
    (h : ofFields given = .ok a) : a.isWritable = true := by
  unfold ofFields at h
  split at h
  · obtain rfl := Except.ok.inj h
    rfl
  · exact absurd h (by simp)
  · exact absurd h (by simp)
  · obtain rfl := Except.ok.inj h
    exact hgiven _ rfl

theorem Argument.read_writable {v : Json} {a : Argument} (hv : v.isWritable = true)
    (h : read v = .done a) : a.isWritable = true := by
  obtain ⟨given, hread, hcheck⟩ := checked_eq_done.mp h
  obtain ⟨fields, rfl, hfields⟩ := readModel_eq_done hread
  simp only [readFields, seqLeft_eq_done, seq_eq_done, map_eq_done] at hfields
  obtain ⟨⟨_, value, ⟨_, type, ⟨name, -, rfl⟩, -, rfl⟩, hvalue, rfl⟩, -⟩ := hfields
  refine isWritable_of_ofFields ?_ hcheck
  exact Fields.optional_forall_mem (P := fun value : Option Literal =>
    ∀ l ∈ value, l.isWritable = true) (by simp)
    (fun field hfield value => readOptional_forall fun l =>
      Literal.read_writable (Json.isWritable_object.mp hv field hfield)) hvalue

/-- The arguments of a list are writable if the list is. -/
theorem Argument.readList_writable {v : Json} {args : List Argument} (hv : v.isWritable = true)
    (h : readList read v = .done args) : ∀ a ∈ args, a.isWritable = true := by
  refine readList_forall_mem ?_ h
  rintro items rfl item hitem a
  exact read_writable (Json.isWritable_list.mp hv item hitem)

theorem Matcher.read_writable {v : Json} {m : Matcher} (hv : v.isWritable = true)
    (h : read v = .done m) : ∀ a ∈ m.args, a.isWritable = true := by
  obtain ⟨fields, rfl, hfields⟩ := readModel_eq_done h
  simp only [readFields, seqLeft_eq_done, seq_eq_done, map_eq_done] at hfields
  obtain ⟨⟨_, args, ⟨type, -, rfl⟩, hargs, rfl⟩, -⟩ := hfields
  exact Fields.optional_forall_mem (by simp)
    (fun field hfield args => Argument.readList_writable (Json.isWritable_object.mp hv field hfield))
    hargs

/-! ## Statements -/

/-- The constants of the statement and of its matcher can be written, and so can those of the statements
of its predicate. -/
inductive Statement.Writable : Statement → Prop
  | mk {s : Statement} (hargs : ∀ a ∈ s.args, a.isWritable = true)
      (hmatcher : ∀ m ∈ s.matcher, ∀ a ∈ m.args, a.isWritable = true)
      (hinner : ∀ s' ∈ s.inner, Writable s') : Writable s

namespace Statement.Writable

variable {s s' : Statement}

theorem args (h : s.Writable) : ∀ a ∈ s.args, a.isWritable = true := by
  cases h with
  | mk hargs hmatcher hinner => exact hargs

theorem matcher (h : s.Writable) : ∀ m ∈ s.matcher, ∀ a ∈ m.args, a.isWritable = true := by
  cases h with
  | mk hargs hmatcher hinner => exact hmatcher

theorem of_inner (h : s.Writable) (hs' : s' ∈ s.inner) : s'.Writable := by
  cases h with
  | mk hargs hmatcher hinner => exact hinner s' hs'

end Statement.Writable

/-- A statement that is read is writable, by induction on the levels that are left to read. -/
theorem Statement.readWithin_writable : ∀ {levels : Nat} {v : Json} {s : Statement},
    v.isWritable = true → readWithin levels v = .done s → s.Writable
  | 0, v, s, _, h => absurd h fault_ne_done
  | levels + 1, v, s, hv, h => by
    obtain ⟨fields, rfl, hfields, -⟩ := readWithin_eq_done h
    rw [Json.isWritable_object] at hv
    refine .mk ?_ ?_ (forall_inner ?_)
    · exact Fields.optional_forall_mem (by simp)
        (fun field hfield args => Argument.readList_writable (hv field hfield)) hfields.args
    · exact Fields.optional_forall_mem (P := fun matcher : Option Matcher =>
        ∀ m ∈ matcher, ∀ a ∈ m.args, a.isWritable = true) (by simp)
        (fun field hfield matcher => readOptional_forall fun m =>
          Matcher.read_writable (hv field hfield)) hfields.matcher
    · refine Fields.optional_forall_mem (P := fun predicate : Option (List Statement) =>
        ∀ ss ∈ predicate, ∀ s' ∈ ss, s'.Writable) (by simp) ?_ hfields.predicate
      intro field hfield predicate
      refine readOptional_forall fun ss => readList_forall_mem ?_
      intro items hitems item hitem s'
      have hlist := hv field hfield
      rw [hitems, Json.isWritable_list] at hlist
      exact readWithin_writable (hlist item hitem)

/-- The statements of a list are writable if the list is. -/
theorem Statement.readList_writable {levels : Nat} {v : Json} {ss : List Statement}
    (hv : v.isWritable = true) (h : readList (readWithin levels) v = .done ss) :
    ∀ s ∈ ss, s.Writable := by
  refine readList_forall_mem ?_ h
  rintro items rfl item hitem s
  exact readWithin_writable (Json.isWritable_list.mp hv item hitem)

/-! ## Selectors -/

/-- A selector with one dialect has a text in it. -/
theorem Selector.text?_of_check {s : Selector} (h : s.check = .ok s) :
    s.text? s.dialect = some s.value := by
  have hused : s.used.length = 1 := by
    unfold check at h
    split at h
    · rename_i hone
      simpa using hone
    · exact absurd h (by simp)
  obtain ⟨d, hd⟩ := List.length_eq_one_iff.mp hused
  have huses : s.uses d = true := by
    have hmem : d ∈ s.used := by simp [hd]
    exact (List.mem_filter.mp hmem).2
  have hdialect : s.dialect = d := by simp [dialect, hd]
  unfold value
  rw [hdialect]
  unfold uses at huses
  split at huses
  · rename_i text htext
    rw [htext, Option.getD_some]
  · exact absurd huses (by simp)

theorem Selector.check_eq_ok {s s' : Selector} (h : s.check = .ok s') : s' = s := by
  unfold check at h
  split at h
  · exact (Except.ok.inj h).symm
  · exact absurd h (by simp)

theorem Selector.read_checked {v : Json} {s : Selector} (h : read v = .done s) : s.check = .ok s := by
  obtain ⟨s', -, hcheck⟩ := checked_eq_done.mp h
  obtain rfl := check_eq_ok hcheck
  exact hcheck

theorem Element.read_selector {v : Json} {e : Element} (h : read v = .done e) :
    e.selector.check = .ok e.selector := by
  obtain ⟨e', hread, hcheck⟩ := checked_eq_done.mp h
  obtain rfl := check_eq_ok hcheck
  obtain ⟨fields, -, hfields⟩ := readModel_eq_done hread
  simp only [readFields, seqLeft_eq_done, seq_eq_done, map_eq_done] at hfields
  obtain ⟨⟨_, isPublic, ⟨_, selector, ⟨_, kind, ⟨name, -, rfl⟩, -, rfl⟩, hselector, rfl⟩, -, rfl⟩, -⟩ :=
    hfields
  exact Fields.required_forall (fun v s => Selector.read_checked) hselector

/-! ## Documents -/

/-- The selectors of a document, the root's first. -/
def Document.selectors (d : Document) : List Selector :=
  d.selector.toList ++ d.elements.map Element.selector

/-- The selectors of the document have a text, and the constants of its statements can be written. -/
structure Document.Writable (d : Document) : Prop where
  selectors : ∀ s ∈ d.selectors, s.text? s.dialect = some s.value
  beforeLoad : ∀ s ∈ d.beforeLoad, s.Writable
  methods : ∀ m ∈ d.methods, ∀ s ∈ m.compose, s.Writable

/-- **A document that is read from a writable value is writable.** -/
theorem Document.read_writable {v : Json} {d : Document} (hv : v.isWritable = true)
    (h : read v = .done d) : d.Writable := by
  obtain ⟨fields, rfl, hfields, -⟩ := read_eq_done.mp h
  rw [Json.isWritable_object] at hv
  refine ⟨?_, ?_, ?_⟩
  · have hroot : ∀ s ∈ d.selector, s.check = .ok s :=
      Fields.optional_forall (P := fun selector : Option Selector => ∀ s ∈ selector, s.check = .ok s)
        (by simp) (fun v selector => readOptional_forall fun s => Selector.read_checked)
        hfields.selector
    have helements : ∀ e ∈ d.elements, e.selector.check = .ok e.selector :=
      Fields.optional_forall (by simp)
        (fun v es => readList_forall fun v e => Element.read_selector) hfields.elements
    intro s hs
    refine Selector.text?_of_check ?_
    rcases List.mem_append.mp hs with hs | hs
    · exact hroot s (Option.mem_toList.mp hs)
    · obtain ⟨e, he, rfl⟩ := List.mem_map.mp hs
      exact helements e he
  · exact Fields.optional_forall_mem (P := fun ss : List Statement => ∀ s ∈ ss, s.Writable) (by simp)
      (fun field hfield ss => Statement.readList_writable (hv field hfield)) hfields.beforeLoad
  · refine Fields.optional_forall_mem (P := fun ms : List Method =>
      ∀ m ∈ ms, ∀ s ∈ m.compose, s.Writable) (by simp) ?_ hfields.methods
    intro field hfield methods
    refine readList_forall_mem ?_
    intro items hitems item hitem m hm
    have hlist := hv field hfield
    rw [hitems, Json.isWritable_list] at hlist
    obtain ⟨fields', rfl, hcompose⟩ := Method.read_eq_done hm
    exact Fields.required_forall_mem
      (fun field' hfield' ss => Statement.readList_writable
        (Json.isWritable_object.mp (hlist _ hitem) field' hfield')) hcompose

end PageObjects
