import PageObjects.ResultType

/-!
# Types that are the same

Types are compared by their full names, at whatever depth lists nest. What the comparison does not look at
can be erased: the mark of a list that all matches were asked for, the name of the page object's own type,
and all that a named type holds besides its full name. What it does look at is kept, so that types are the
same exactly when nothing that is left of them differs. The types are those of the Type Provider
(specification, 3).

* `ErasedType`, `ResultType.erased`: what is left of a type.
* `ResultType.same_iff_erased`: types are the same exactly if as much is left of them.
* `ResultType.kind`: the kind by which a type is tagged as a value; it is not erased.
* **`ResultType.same_classifies`**: the comparison is an equivalence, which lists keep and reflect and which
  relates no types of different kinds.
-/

namespace PageObjects

/-- What is left of a type: the lists around it, and its kind or its full name. -/
inductive ErasedType where
  | void
  | named (fullName : String)
  | list (element : ErasedType)
  | self
  | unset
  deriving DecidableEq, Repr

/-- The kind of what is left of a type. -/
def ErasedType.kind : ErasedType → String
  | .void => "void"
  | .named _ => "concrete"
  | .list _ => "list"
  | .self => "self"
  | .unset => "unset"

namespace ResultType

variable {t u : ResultType}

/-- The type without the marks of its lists, the name of the page object's own type, and what a named
type holds besides its full name. -/
def erased : ResultType → ErasedType
  | .void => .void
  | .named type => .named type.fullName
  | .list element _ => .list element.erased
  | .self _ => .self
  | .unset => .unset

/-- **Types are the same exactly if as much is left of them.** The induction is on the first type; what
has to be shown of lists is what holds of their elements, and types of two constructors differ on both
sides. -/
theorem same_iff_erased : t.same u = true ↔ t.erased = u.erased := by
  induction t generalizing u with
  | list element returnAll ih =>
    cases u with
    | list other marked => rw [same, erased, erased, ErasedType.list.injEq, ih]
    | _ => simp [same, erased]
  | named type =>
    cases u with
    | named other => rw [same, erased, erased, ErasedType.named.injEq, beq_iff_eq]
    | _ => simp [same, erased]
  | void => cases u <;> simp [same, erased]
  | self name => cases u <;> simp [same, erased]
  | unset => cases u <;> simp [same, erased]

/-! ## An equivalence -/

theorem same_refl (t : ResultType) : t.same t = true := same_iff_erased.mpr rfl

theorem same_equivalence : Equivalence fun t u : ResultType => t.same u = true where
  refl := same_refl
  symm h := same_iff_erased.mpr (same_iff_erased.mp h).symm
  trans h h' := same_iff_erased.mpr ((same_iff_erased.mp h).trans (same_iff_erased.mp h'))

/-- Lists are the same exactly if their elements are, whether or not all matches were asked for. -/
theorem same_list_list {a b : Bool} : (list t a).same (list u b) = t.same u := by rw [same]

/-! ## Kinds -/

/-- The kind of a type: the tag of the type as a value. -/
def kind : ResultType → String
  | .void => "void"
  | .named _ => "concrete"
  | .list _ _ => "list"
  | .self _ => "self"
  | .unset => "unset"

/-- A type as a value is tagged by its kind. -/
theorem kind_toJson (t : ResultType) :
    ∃ fields, t.toJson = .object (("kind", .text t.kind) :: fields) := by
  cases t <;> exact ⟨_, rfl⟩

/-- The kind is not erased. -/
theorem kind_eq (t : ResultType) : t.kind = t.erased.kind := by cases t <;> rfl

theorem kind_of_same (h : t.same u = true) : t.kind = u.kind := by
  rw [kind_eq, kind_eq, same_iff_erased.mp h]

/-- **The comparison of types is equality of what is left of them.** Erased are the marks of lists, the
name of the page object's own type, and all of a named type but its full name. So the comparison is an
equivalence; it holds of lists exactly if it holds of their elements, whatever their marks; and types of
different kinds, which are tagged by them as values, are never the same. -/
theorem same_classifies :
    (∀ t u : ResultType, t.same u = true ↔ t.erased = u.erased) ∧
    (Equivalence fun t u : ResultType => t.same u = true) ∧
    (∀ (t u : ResultType) (a b : Bool), (list t a).same (list u b) = t.same u) ∧
    (∀ t : ResultType, ∃ fields, t.toJson = .object (("kind", .text t.kind) :: fields)) ∧
    ∀ t u : ResultType, t.kind ≠ u.kind → t.same u = false := by
  refine ⟨fun t u => same_iff_erased, same_equivalence, fun t u a b => same_list_list, kind_toJson,
    fun t u hkind => ?_⟩
  rw [← Bool.not_eq_true]
  exact fun hsame => hkind (kind_of_same hsame)

/-- A list of lists of a page object's type and of an element's type with its full name, under other
marks. -/
example : (list (list (.named { name := "C", package := "a.b" }) true) false).same
    (list (list (.named { name := "a.b.C", interfaces := some [] }) false) true) = true := by decide

end ResultType
end PageObjects
