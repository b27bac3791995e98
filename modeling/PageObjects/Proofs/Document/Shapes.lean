import Mathlib.Algebra.Ring.Int.Defs
import Mathlib.Data.List.Forall2
import PageObjects.Document.Basic
import PageObjects.Proofs.Elements

/-!
# Shapes of values

A shape says which values stand for what, without saying how they are read: a text for itself, a list for what
its items stand for, a field for what its value stands for under one of its two spellings. Booleans and literals
are lenient: numbers and words stand for Booleans, and a number with a point for the integer that it is equal to.

* `IsText`, `IsBoolean`, `IsLiteral`, `IsElementKind`: the shapes of single values.
* `OrNull`, `ListOf`, `ObjectOf`: shapes made of others.
* `Fields.Requires`, `Fields.Allows`, `Fields.Known`: the fields of an object, and no others.
* **`Reads`**: a reader reads the values of a shape, and no others.
* **`Fields.onlyKeys_eq_done_iff`**: no field is left over exactly if all are known, each under one spelling.
-/

namespace PageObjects

open Reading

/-- A relation between values and what they stand for. -/
abbrev Shape (α : Type) := Json → α → Prop

/-! ## Single values -/

/-- A text stands for itself. -/
inductive IsText : Shape String
  | text (chars : String) : IsText (.text chars) chars

/-- A Boolean, the integers zero and one, numbers that are equal to them, and some words in any case. -/
inductive IsBoolean : Shape Bool
  | bool (b : Bool) : IsBoolean (.bool b) b
  | int (b : Bool) : IsBoolean (.int b.toInt) b
  | real {r : Binary64} {b : Bool} (hwhole : r.whole? = some b.toInt) : IsBoolean (.real r) b
  | word {chars : String} {b : Bool}
      (hword : (String.ofList (chars.toList.map Char.toLower), b) ∈ booleanWords) :
      IsBoolean (.text chars) b

/-- A Boolean, an integer of any size or a text. A number that is equal to zero or one stands for a Boolean, and
one that is equal to another integer of 64 bits for that. -/
inductive IsLiteral : Shape Literal
  | bool (b : Bool) : IsLiteral (.bool b) (.bool b)
  | int (n : Int) : IsLiteral (.int n) (.int n)
  | text (chars : String) : IsLiteral (.text chars) (.text chars)
  | binary {r : Binary64} {b : Bool} (hwhole : r.whole? = some b.toInt) : IsLiteral (.real r) (.bool b)
  | whole {r : Binary64} {n : Int} (hwhole : r.whole? = some n) (hbinary : ∀ b : Bool, n ≠ b.toInt)
      (hbound : -2 ^ 63 < n ∧ n < 2 ^ 63) : IsLiteral (.real r) (.int n)

/-! ## Shapes made of others -/

/-- Null for nothing, any other value for what it stands for. -/
def OrNull {α : Type} (shape : Shape α) : Shape (Option α)
  | v, none => v = .null
  | v, some a => v ≠ .null ∧ shape v a

/-- A list for what its items stand for, one by one. -/
def ListOf {α : Type} (shape : Shape α) : Shape (List α) := fun v as =>
  ∃ items, v = .list items ∧ List.Forall₂ shape items as

/-- An object for what its fields stand for. -/
def ObjectOf {α : Type} (written : Fields → α → Prop) : Shape α := fun v a =>
  ∃ fields, v = .object fields ∧ written fields a

/-- The interfaces of a basic element, a reference to a page object, or nothing. -/
inductive IsElementKind : Shape ElementKind
  | untyped : IsElementKind .null .untyped
  | reference (chars : String) : IsElementKind (.text chars) (.pageObject chars)
  | interfaces {v : Json} {names : List String} (hnames : ListOf IsText v names) :
      IsElementKind v (.basic names)

/-! ## Fields -/

namespace Fields

/-- The value is given under the key, in one of its spellings. -/
def Gives (fields : Fields) (key : Key) (v : Json) : Prop :=
  fields.get? key.camel = some v ∨ fields.get? key.snake = some v

/-- No value is given under the key. -/
def Lacks (fields : Fields) (key : Key) : Prop :=
  fields.get? key.camel = none ∧ fields.get? key.snake = none

/-- The field has to be given. -/
def Requires {α : Type} (fields : Fields) (key : Key) (shape : Shape α) (a : α) : Prop :=
  ∃ v, fields.Gives key v ∧ shape v a

/-- The field may be left out, and then stands for the default. -/
def Allows {α : Type} (fields : Fields) (key : Key) (default : α) (shape : Shape α) (a : α) : Prop :=
  fields.Requires key shape a ∨ fields.Lacks key ∧ a = default

/-- The keys are spelled differently. -/
def Separate (keys : List Key) : Prop :=
  ∀ key ∈ keys, ∀ key' ∈ keys,
    key.camel = key'.camel ∨ key.camel = key'.snake ∨ key.snake = key'.snake → key = key'

instance {keys : List Key} : Decidable (Separate keys) :=
  inferInstanceAs (Decidable (∀ key ∈ keys, ∀ key' ∈ keys,
    key.camel = key'.camel ∨ key.camel = key'.snake ∨ key.snake = key'.snake → key = key'))

/-- The fields are given under the keys, and none under both spellings of one. -/
structure Known (fields : Fields) (keys : List Key) : Prop where
  known : ∀ field ∈ fields, ∃ key ∈ keys, field.1 = key.camel ∨ field.1 = key.snake
  single : ∀ key ∈ keys, key.camel ≠ key.snake →
    fields.get? key.camel = none ∨ fields.get? key.snake = none

end Fields

section Conditions

variable {α : Type} {shape : Shape α} {P : α → Prop} (h : ∀ v a, shape v a → P a)
include h

theorem OrNull.forall_mem {v : Json} {a? : Option α} (hshape : OrNull shape v a?) : ∀ a ∈ a?, P a := by
  rintro a rfl
  exact h v a hshape.2

theorem ListOf.forall_mem {v : Json} {as : List α} (hshape : ListOf shape v as) : ∀ a ∈ as, P a := by
  obtain ⟨items, -, hitems⟩ := hshape
  intro a ha
  obtain ⟨item, -, hitem⟩ := exists_of_mem_forall₂ hitems a ha
  exact h item a hitem

theorem Fields.Allows.of_shape {fields : Fields} {key : Key} {default a : α} (hdefault : P default)
    (hfield : fields.Allows key default shape a) : P a := by
  rcases hfield with ⟨v, -, hv⟩ | ⟨-, rfl⟩
  · exact h v a hv
  · exact hdefault

theorem Fields.Allows.forall_mem {fields : Fields} {key : Key} {as : List α}
    (hfield : fields.Allows key [] (ListOf shape) as) : ∀ a ∈ as, P a := by
  have hlist : ∀ v as, ListOf shape v as → ∀ a ∈ as, P a := fun _ _ => ListOf.forall_mem h
  exact of_shape hlist (by simp) hfield

theorem Fields.Allows.forall_mem_option {fields : Fields} {key : Key} {a? : Option α}
    (hfield : fields.Allows key none (OrNull shape) a?) : ∀ a ∈ a?, P a := by
  have hoption : ∀ v a?, OrNull shape v a? → ∀ a ∈ a?, P a := fun _ _ => OrNull.forall_mem h
  exact of_shape hoption (by simp) hfield

theorem Fields.Requires.of_shape {fields : Fields} {key : Key} {a : α} (hfield : fields.Requires key shape a) :
    P a := by
  obtain ⟨v, -, hv⟩ := hfield
  exact h v a hv

end Conditions

/-! ## Shapes with a condition -/

/-- The first shape is the second, with a condition on what a value stands for. -/
def Splits {α : Type} (whole part : Shape α) (P : α → Prop) : Prop := ∀ v a, whole v a ↔ part v a ∧ P a

section Splitting

variable {α : Type} {whole part : Shape α} {P : α → Prop} (h : Splits whole part P)
include h

theorem Splits.listOf : Splits (ListOf whole) (ListOf part) fun as => ∀ a ∈ as, P a := by
  intro v as
  have hitems : ∀ items, List.Forall₂ whole items as ↔ List.Forall₂ part items as ∧ ∀ a ∈ as, P a := by
    induction as with
    | nil => simp
    | cons a rest ih =>
      intro items
      simp only [List.forall₂_cons_right_iff, List.forall_mem_cons, h _ a, ih]
      constructor
      · rintro ⟨item, others, ⟨hitem, ha⟩, ⟨hothers, hrest⟩, rfl⟩
        exact ⟨⟨item, others, hitem, hothers, rfl⟩, ha, hrest⟩
      · rintro ⟨⟨item, others, hitem, hothers, rfl⟩, ha, hrest⟩
        exact ⟨item, others, ⟨hitem, ha⟩, ⟨hothers, hrest⟩, rfl⟩
  simp only [ListOf, hitems, ← and_assoc, exists_and_right]

theorem Splits.orNull : Splits (OrNull whole) (OrNull part) fun a? => ∀ a ∈ a?, P a := by
  intro v a?
  cases a? with
  | none => simp [OrNull]
  | some a => simp [OrNull, h v a, and_assoc]

theorem Fields.requires_iff {fields : Fields} {key : Key} {a : α} :
    fields.Requires key whole a ↔ fields.Requires key part a ∧ P a := by
  simp only [Requires, h _ a, ← and_assoc, exists_and_right]

/-- A field whose default keeps the condition. -/
theorem Fields.allows_iff {fields : Fields} {key : Key} {default a : α} (hdefault : P default) :
    fields.Allows key default whole a ↔ fields.Allows key default part a ∧ P a := by
  rw [Allows, Allows, requires_iff h, or_and_right]
  refine or_congr Iff.rfl (iff_self_and.mpr ?_)
  rintro ⟨-, rfl⟩
  exact hdefault

end Splitting

/-! ## Readers -/

/-- The reader reads the values of the shape, and no others. -/
def Reads {α : Type} (read : Reader α) (shape : Shape α) : Prop := ∀ v a, read v = .done a ↔ shape v a

theorem reads_text : Reads readText IsText := by
  intro v a
  constructor
  · intro h
    cases v with
    | text chars =>
      obtain rfl := Reading.done.inj h
      exact .text chars
    | _ => exact absurd h fault_ne_done
  · rintro ⟨⟩
    rfl

theorem readBooleanNumber_eq_done {n : Int} {b : Bool} : readBooleanNumber n = .done b ↔ n = b.toInt := by
  unfold readBooleanNumber
  by_cases hzero : n = 0
  · subst hzero
    cases b <;> simp
  · by_cases hone : n = 1
    · subst hone
      cases b <;> simp
    · rw [if_neg (by simpa using hzero), if_neg (by simpa using hone)]
      cases b <;> simp [hzero, hone, fault_ne_done]

theorem mem_booleanWords {word : String} {b : Bool} :
    booleanWords.lookup word = some b ↔ (word, b) ∈ booleanWords := by
  have hwords : ∀ entry ∈ booleanWords, booleanWords.lookup entry.1 = some entry.2 := by decide
  exact ⟨mem_of_lookup, hwords (word, b)⟩

theorem reads_boolean : Reads readBoolean IsBoolean := by
  intro v b
  constructor
  · intro h
    unfold readBoolean at h
    split at h
    · obtain rfl := Reading.done.inj h
      exact .bool _
    · split at h
      · rename_i hlookup
        obtain rfl := Reading.done.inj h
        exact .word (mem_booleanWords.mp hlookup)
      · exact absurd h fault_ne_done
    · split at h
      · obtain rfl := readBooleanNumber_eq_done.mp h
        exact .int b
      · exact absurd h fault_ne_done
    · split at h
      · rename_i n hwhole
        split at h
        · obtain rfl := readBooleanNumber_eq_done.mp h
          exact .real hwhole
        · exact absurd h fault_ne_done
      · exact absurd h fault_ne_done
    · exact absurd h fault_ne_done
  · intro h
    cases h with
    | bool b => rfl
    | int b => cases b <;> rfl
    | real hwhole => cases b <;> simp [readBoolean, hwhole, inside64, bound64, readBooleanNumber]
    | word hword => simp [readBoolean, mem_booleanWords.mpr hword]

theorem inside64_iff {n : Int} : inside64 n = true ↔ -2 ^ 63 < n ∧ n < 2 ^ 63 := by
  rw [inside64, Bool.and_eq_true, decide_eq_true_iff, decide_eq_true_iff]
  rfl

/-- A number with a point is read as the integer of 64 bits that it is equal to. -/
theorem readWholeReal_eq_done {r : Binary64} {n : Int} : readWholeReal r = .done n ↔
    r.whole? = some n ∧ -2 ^ 63 < n ∧ n < 2 ^ 63 := by
  rw [← inside64_iff, readWholeReal]
  cases r with
  | finite negative mantissa exponent =>
    simp only [Binary64.isFinite, if_true]
    cases (Binary64.finite negative mantissa exponent).whole? with
    | none => simp [fault_ne_done]
    | some whole =>
      by_cases hinside : inside64 whole = true
      · simp only [hinside, if_true, Reading.done.injEq, Option.some.injEq]
        constructor
        · rintro rfl
          exact ⟨rfl, hinside⟩
        · exact And.left
      · simp only [hinside, Option.some.injEq]
        refine iff_of_false (by simp [fault_ne_done]) ?_
        rintro ⟨rfl, hinside'⟩
        exact hinside hinside'
  | infinity negative => simp [Binary64.isFinite, Binary64.whole?, fault_ne_done]
  | nan => simp [Binary64.isFinite, Binary64.whole?, fault_ne_done]

theorem reads_literal : Reads Literal.read IsLiteral := by
  intro v l
  constructor
  · intro h
    unfold Literal.read at h
    split at h
    · obtain rfl := Reading.done.inj h
      exact .bool _
    · obtain rfl := Reading.done.inj h
      exact .int _
    · obtain rfl := Reading.done.inj h
      exact .text _
    · split at h
      · rename_i n hread
        obtain ⟨hwhole, hbound⟩ := readWholeReal_eq_done.mp hread
        obtain rfl := Reading.done.inj h
        by_cases hzero : n = 0
        · subst hzero
          exact @IsLiteral.binary _ false hwhole
        · by_cases hone : n = 1
          · subst hone
            exact @IsLiteral.binary _ true hwhole
          · rw [if_neg (by simpa using hzero), if_neg (by simpa using hone)]
            refine .whole hwhole ?_ hbound
            rintro (_ | _)
            · exact hzero
            · exact hone
      · exact absurd h (by simp [Literal.refuse])
    · exact absurd h (by simp [Literal.refuse])
  · intro h
    cases h with
    | bool b => rfl
    | int n => rfl
    | text chars => rfl
    | binary hwhole =>
      have hread := readWholeReal_eq_done.mpr ⟨hwhole, by cases ‹Bool› <;> decide⟩
      rw [Literal.read, hread]
      cases ‹Bool› <;> rfl
    | @whole r n hwhole hbinary hbound =>
      have hzero : n ≠ 0 := hbinary false
      have hone : n ≠ 1 := hbinary true
      rw [Literal.read, readWholeReal_eq_done.mpr ⟨hwhole, hbound⟩]
      simp [hzero, hone]

section Composed

variable {α : Type} {read : Reader α} {shape : Shape α}

theorem reads_optional (h : Reads read shape) : Reads (readOptional read) (OrNull shape) := by
  intro v a?
  have hvalue : v ≠ .null → (readOptional read v = .done a? ↔ ∃ a, read v = .done a ∧ some a = a?) := by
    intro hne
    rw [readOptional, map_eq_done]
    exact hne
  by_cases hnull : v = .null
  · subst hnull
    cases a? <;> simp [readOptional, OrNull]
  · rw [hvalue hnull]
    cases a? <;> simp [OrNull, hnull, h v]

theorem reads_list (h : Reads read shape) : Reads (readList read) (ListOf shape) := by
  intro v as
  have hsame : (fun v a => read v = .done a) = shape := funext₂ fun v a => propext (h v a)
  rw [readList_eq_done, hsame]
  rfl

theorem reads_elementKind : Reads ElementKind.read IsElementKind := by
  intro v kind
  constructor
  · intro h
    unfold ElementKind.read at h
    split at h
    · obtain rfl := Reading.done.inj h
      exact .untyped
    · obtain rfl := Reading.done.inj h
      exact .reference _
    · split at h
      · rename_i names hnames
        obtain rfl := Reading.done.inj h
        exact .interfaces ((reads_list reads_text _ _).mp (within_eq_done.mp hnames))
      · exact absurd h (by simp)
  · intro h
    cases h with
    | untyped => rfl
    | reference chars => rfl
    | interfaces hnames =>
      have hread := (reads_list reads_text _ _).mpr hnames
      obtain ⟨items, rfl, -⟩ := hnames
      simp only [ElementKind.read, hread, within]

end Composed

/-- The model of an object is read, with its rule, from its fields. -/
theorem reads_model {α β : Type} {model : String} {readFields : Fields → Reading β}
    {check : β → Except Rule α} {written : Fields → α → Prop}
    (h : ∀ fields a, (∃ b, readFields fields = .done b ∧ check b = .ok a) ↔ written fields a) :
    Reads (fun v => (readModel model readFields v).checked check) (ObjectOf written) := by
  intro v a
  rw [checked_eq_done]
  constructor
  · rintro ⟨b, hread, hcheck⟩
    obtain ⟨fields, rfl, hfields⟩ := readModel_eq_done hread
    exact ⟨fields, rfl, (h fields a).mp ⟨b, hfields, hcheck⟩⟩
  · rintro ⟨fields, rfl, hwritten⟩
    exact (h fields a).mpr hwritten

namespace Fields

variable {fields : Fields} {keys : List Key} {key : Key}

/-- The field that a key finds is the one that is given, if it is not given under both spellings. -/
theorem find?_eq_some_iff (hsingle : key.camel ≠ key.snake →
      fields.get? key.camel = none ∨ fields.get? key.snake = none) {v : Json} :
    (∃ given, fields.find? key = some (given, v)) ↔ fields.Gives key v := by
  unfold find? Gives
  cases hcamel : fields.get? key.camel with
  | none => simp
  | some own =>
    have hsnake : ∀ v, fields.get? key.snake = some v → own = v := by
      intro v hsnake
      by_cases hsame : key.camel = key.snake
      · rw [hsame] at hcamel
        exact Option.some.inj (hcamel.symm.trans hsnake)
      · rcases hsingle hsame with hnone | hnone
        · exact absurd (hcamel.symm.trans hnone) (by simp)
        · exact absurd (hsnake.symm.trans hnone) (by simp)
    constructor
    · rintro ⟨given, hgiven⟩
      exact Or.inl (congrArg (fun entry => entry.map Prod.snd) hgiven)
    · rintro (hown | hown)
      · exact ⟨_, by rw [Option.some.inj hown]⟩
      · exact ⟨_, by rw [hsnake v hown]⟩

theorem find?_eq_none_iff : fields.find? key = none ↔ fields.Lacks key := by
  unfold find? Lacks
  cases fields.get? key.camel <;> simp

section Values

variable {α : Type} {read : Reader α} {shape : Shape α} {a default : α}

theorem Known.required_iff (hknown : fields.Known keys) (hread : Reads read shape) (hkey : key ∈ keys) :
    fields.required key read = .done a ↔ fields.Requires key shape a := by
  have hgives := fun v => @find?_eq_some_iff fields key (hknown.single key hkey) v
  unfold required Requires
  simp only [← hgives, ← hread _ a]
  cases hfind : fields.find? key with
  | none => simp [within_eq_done, fault_ne_done]
  | some given =>
    obtain ⟨given, v⟩ := given
    simp [within_eq_done]

theorem Known.optional_iff (hknown : fields.Known keys) (hread : Reads read shape) (hkey : key ∈ keys) :
    fields.optional key default read = .done a ↔ fields.Allows key default shape a := by
  rw [Allows, ← hknown.required_iff hread hkey, ← find?_eq_none_iff]
  unfold optional required
  cases hfind : fields.find? key with
  | none => simp [within, fault, eq_comm]
  | some given => simp

end Values

theorem isSome_get?_of_mem {field : String × Json} (h : field ∈ fields) : (fields.get? field.1).isSome := by
  rw [get?, List.lookup_isSome_iff]
  exact ⟨field, h, beq_self_eq_true _⟩

/-- **No field is left over** exactly if all are known, and none is given under both spellings of a key. -/
theorem onlyKeys_eq_done_iff (hseparate : Separate keys) {u : Unit} :
    fields.onlyKeys keys = .done u ↔ fields.Known keys := by
  rw [onlyKeys_eq_done]
  have htaken : ∀ {name}, name ∈ fields.taken keys ↔
      ∃ key ∈ keys, ∃ v, fields.find? key = some (name, v) := by
    intro name
    simp only [taken, List.mem_filterMap, Option.map_eq_some_iff, Prod.exists, exists_and_right,
      exists_eq_right]
  constructor
  · intro htakes
    refine ⟨?_, ?_⟩
    · intro field hfield
      obtain ⟨key, hkey, v, hfind⟩ := htaken.mp (htakes field hfield)
      refine ⟨key, hkey, ?_⟩
      unfold find? at hfind
      split at hfind
      · exact Or.inl (Prod.mk.inj (Option.some.inj hfind)).1.symm
      · obtain ⟨_, -, hsame⟩ := Option.map_eq_some_iff.mp hfind
        exact Or.inr (Prod.mk.inj hsame).1.symm
    · intro key hkey hne
      rw [or_iff_not_imp_left]
      intro hcamel
      rw [Option.eq_none_iff_forall_ne_some]
      intro v hsnake
      -- the second spelling is taken by no key: not by its own, and not by another
      obtain ⟨key', hkey', v', hfind⟩ := htaken.mp (htakes _ (mem_of_lookup hsnake))
      unfold find? at hfind
      split at hfind
      · have hspelled := (Prod.mk.inj (Option.some.inj hfind)).1
        obtain rfl := hseparate key' hkey' key hkey (Or.inr (Or.inl hspelled))
        exact hne hspelled
      · rename_i hnone
        obtain ⟨_, -, hsame⟩ := Option.map_eq_some_iff.mp hfind
        obtain rfl := hseparate key' hkey' key hkey (Or.inr (Or.inr (Prod.mk.inj hsame).1))
        exact hcamel hnone
  · intro hknown field hfield
    rw [htaken]
    obtain ⟨v, hv⟩ := Option.isSome_iff_exists.mp (isSome_get?_of_mem hfield)
    obtain ⟨key, hkey, hcamel | hsnake⟩ := hknown.known field hfield
    · exact ⟨key, hkey, v, by rw [find?, ← hcamel, hv]⟩
    · refine ⟨key, hkey, v, ?_⟩
      by_cases hsame : key.camel = key.snake
      · rw [find?, hsame, ← hsnake, hv]
      · rcases hknown.single key hkey hsame with hnone | hnone
        · rw [find?, hnone, ← hsnake, hv]
          rfl
        · rw [← hsnake, hv] at hnone
          exact absurd hnone (by simp)

end Fields

end PageObjects
