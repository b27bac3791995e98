import PageObjects.Compose.Naming
import PageObjects.Proofs.Text.Name

/-!
# Names of declarations

A name in generated code is one that the document has chosen for a parameter, or a base and an
index. The base of the variables of values and verdicts is fixed; the base of a look-up is the name
of its element. Two names with indices can be equal only if their bases are, up to digits at their
ends: `button1` at index 0 and `button` at index 10 are both `button10`.

* `Declaration.MayClash`: the pairs of declarations that can bind one name. A parameter may clash
  with any variable, and a look-up with the variables whose base has the same stem.
* **`Declaration.mayClash_of_name_eq`**: no other declarations bind one name. Parameters, variables of
  values and verdicts, and look-ups of one element never clash.
-/

namespace PageObjects

/-- Something in generated code that binds a name. -/
inductive Declaration where
  | parameter (name : String)
  | lookup (element : String) (index : Nat) (inPredicate : Bool)
  | value (index : Nat) (inPredicate : Bool)
  | verdict (index : Nat) (inPredicate : Bool)
  deriving DecidableEq, Repr

/-- A text without the digits at its end, last character first. -/
def stem (text : String) : List Char := text.toList.reverse.dropWhile Char.isDigit

namespace Declaration

/-- The name that is bound. -/
def name : Declaration → String
  | .parameter name => name
  | .lookup element index inPredicate => Naming.elementVariable element index inPredicate
  | .value index inPredicate => Naming.statementVariable index inPredicate
  | .verdict index inPredicate => Naming.matcherVariable index inPredicate

/-- What stands in front of the index of a name. -/
def base : Declaration → String
  | .parameter name => name
  | .lookup element _ inPredicate => Naming.predicateMark inPredicate ++ element
  | .value _ inPredicate => Naming.predicateMark inPredicate ++ "statement"
  | .verdict _ inPredicate => Naming.predicateMark inPredicate ++ "matcher"

/-- What tells a declaration from the others of its scope: an element is looked up once. -/
def key : Declaration → Declaration
  | .lookup element _ inPredicate => .lookup element 0 inPredicate
  | d => d

/-- Two declarations that can bind one name. -/
def MayClash : Declaration → Declaration → Prop
  | .parameter _, .parameter _ => False
  | .parameter _, _ | _, .parameter _ => True
  | .lookup element index inPredicate, .lookup element' index' inPredicate' =>
    element ≠ element' ∧
      stem (base (.lookup element index inPredicate)) =
        stem (base (.lookup element' index' inPredicate'))
  | .lookup element index inPredicate, d => stem (base (.lookup element index inPredicate)) = stem d.base
  | d, .lookup element index inPredicate => stem d.base = stem (base (.lookup element index inPredicate))
  | _, _ => False

/-! ## Stems -/

theorem stem_append_index (base : String) (i : Nat) : stem (base ++ toString i) = stem base := by
  have hdigits : ∀ c ∈ (toString i).toList.reverse, c.isDigit = true := by
    intro c hc
    exact Text.isDigit_of_mem_index (List.mem_reverse.mp hc)
  rw [stem, stem, String.toList_append, List.reverse_append, List.dropWhile_append_of_pos hdigits]

/-- Names with indices are equal only if their bases have one stem. -/
theorem stem_eq_of_append {base base' : String} {i j : Nat}
    (h : base ++ toString i = base' ++ toString j) : stem base = stem base' := by
  rw [← stem_append_index base i, h, stem_append_index]

theorem index_inj {base : String} {i j : Nat} (h : base ++ toString i = base ++ toString j) :
    i = j := by
  have hdigits : Nat.toDigits 10 i = Nat.toDigits 10 j := by
    rw [← String.toList_inj, String.toList_append, String.toList_append] at h
    simpa [Nat.toString_eq_repr, Nat.toList_repr] using h
  rw [← Nat.ofDigitChars_ten_toDigits (n := i), hdigits, Nat.ofDigitChars_ten_toDigits]

/-- The element can be read off the name of its look-up. -/
theorem elementVariable_inj {name other : String} {index : Int} {inPredicate : Bool}
    (h : Naming.elementVariable name index inPredicate =
      Naming.elementVariable other index inPredicate) : name = other := by
  simpa [Naming.elementVariable, ← String.toList_inj] using h

/-- The letter `p` stands in no index. -/
theorem count_p_index (i : Nat) : (toString i).toList.count 'p' = 0 := by
  rw [List.count_eq_zero]
  intro hp
  exact absurd (Text.isDigit_of_mem_index hp) (by decide)

/-! ## Clashes -/

theorem name_eq_append {d : Declaration} (h : ∀ name, d ≠ .parameter name) :
    ∃ i : Nat, d.name = d.base ++ toString i := by
  cases d with
  | parameter name => exact absurd rfl (h name)
  | lookup element i inPredicate => exact ⟨i, rfl⟩
  | value i inPredicate => exact ⟨i, rfl⟩
  | verdict i inPredicate => exact ⟨i, rfl⟩

/-- Variables of one name have bases of one stem. -/
theorem stem_eq {d d' : Declaration} (hd : ∀ name, d ≠ .parameter name)
    (hd' : ∀ name, d' ≠ .parameter name) (h : d.name = d'.name) : stem d.base = stem d'.base := by
  obtain ⟨i, hi⟩ := name_eq_append hd
  obtain ⟨j, hj⟩ := name_eq_append hd'
  rw [hi, hj] at h
  exact stem_eq_of_append h

/-- A predicate looks an element up under another name than the method around it. -/
theorem lookup_inPredicate_eq {element : String} {i j : Nat} {p q : Bool}
    (h : (lookup element i p).name = (lookup element j q).name) : p = q := by
  have hcount : ∀ (k : Nat) (r : Bool), (lookup element k r).name.toList.count 'p' =
      (if r then 1 else 0) + element.toList.count 'p' := by
    intro k r
    have hk : (toString (k : Int)).toList.count 'p' = 0 := count_p_index k
    simp only [name, Naming.elementVariable, Naming.predicateMark, String.toList_append,
      List.count_append, hk, Nat.add_zero]
    cases r <;> simp
  have hsum := hcount i p
  rw [h, hcount j q] at hsum
  cases p <;> cases q <;> simp_all

/-- The fixed words in front of an index, with or without the mark of predicates, have stems of
their own. -/
theorem stem_marked : ∀ p q : Bool, ∀ word ∈ ["statement", "matcher"],
    ∀ word' ∈ ["statement", "matcher"],
      stem (Naming.predicateMark p ++ word) = stem (Naming.predicateMark q ++ word') →
        p = q ∧ word = word' := by decide

/-- The index, the mark and the word can be read off a name that is not chosen by the document. -/
theorem marked_inj {i j : Nat} {p q : Bool} {word word' : String}
    (hword : word ∈ ["statement", "matcher"]) (hword' : word' ∈ ["statement", "matcher"])
    (h : Naming.predicateMark p ++ word ++ toString i =
      Naming.predicateMark q ++ word' ++ toString j) : i = j ∧ p = q ∧ word = word' := by
  obtain ⟨rfl, rfl⟩ := stem_marked p q word hword word' hword' (stem_eq_of_append h)
  exact ⟨index_inj h, rfl, rfl⟩

/-- **Declarations of one scope bind different names**, unless one is a parameter and the other a
variable, or one is a look-up and the other a variable whose base has the same stem. -/
theorem mayClash_of_name_eq {d d' : Declaration} (hkey : d.key ≠ d'.key) (h : d.name = d'.name) :
    d.MayClash d' := by
  match d, d' with
  | .parameter name, .parameter name' => exact absurd (congrArg parameter h) hkey
  | .parameter _, .lookup _ _ _ | .parameter _, .value _ _ | .parameter _, .verdict _ _
  | .lookup _ _ _, .parameter _ | .value _ _, .parameter _ | .verdict _ _, .parameter _ =>
    trivial
  | .lookup element i p, .lookup element' j q =>
    refine ⟨?_, stem_eq (by simp) (by simp) h⟩
    rintro rfl
    obtain rfl := lookup_inPredicate_eq h
    exact hkey rfl
  | .lookup _ _ _, .value _ _ | .lookup _ _ _, .verdict _ _
  | .value _ _, .lookup _ _ _ | .verdict _ _, .lookup _ _ _ =>
    exact stem_eq (by simp) (by simp) h
  | .value i p, .value j q | .verdict i p, .verdict j q =>
    obtain ⟨rfl, rfl, -⟩ := marked_inj (by simp) (by simp) h
    exact absurd rfl hkey
  | .value i p, .verdict j q | .verdict i p, .value j q =>
    obtain ⟨-, -, hword⟩ := marked_inj (by simp) (by simp) h
    exact absurd hword (by decide)

end Declaration
end PageObjects
