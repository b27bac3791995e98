import PageObjects.PageClass.Java
import PageObjects.PageClass.OfDocument
import PageObjects.Proofs.Document.Writable
import PageObjects.Proofs.Page

/-!
# Operations that are not defined everywhere

Some operations of the compiler are defined on some arguments only: a text has a first letter if it is not
empty, a sequence a last statement if it has one, a matcher an expression if it has the arguments for it.
The compiler goes on as if each of them had a result. Here each of them is an operation that may be
breached, and a `Guarded` computation ends in a breach where the compiler would use one of them outside of
its domain. It is the measure of the compiler: where the two agree, no operation is breached.

* `Breach`: the operations, used where they are not defined.
* `Halt`: how a guarded computation ends without a result.
* `Guarded.of`: a computation of the compiler as a guarded one.
* `Guarded.resolve_eq`: a type keyword is resolved without a breach.
* `Guarded.pageOf_eq`: elements with names are declared without a breach.
-/

namespace PageObjects

/-- An operation that is used where it is not defined. -/
inductive Breach where
  /-- The first letter of a text that is empty. -/
  | firstLetter
  /-- The element of a statement that names none. -/
  | namelessElement
  /-- The statement before the first one. -/
  | chain (e : ChainError)
  /-- The last statement of a sequence that has none. -/
  | lastStatement
  /-- The expression of a matcher that has too few arguments. -/
  | matcherArgument (kind : MatcherKind)
  /-- An integer written with more digits than can be written. -/
  | digits
  /-- The text of a selector that has none. -/
  | selectorText
  /-- The name of a type that is none of a named type. -/
  | elementType
  deriving DecidableEq, Repr

/-- How a guarded computation ends without a result: it refuses what it is given, or an operation is
breached. -/
inductive Halt (ε : Type) where
  | refused (e : ε)
  | breached (b : Breach)
  deriving DecidableEq, Repr

/-- The end of a computation, with the error seen from the whole that it is a part of. -/
def Halt.map (f : ε → δ) : Halt ε → Halt δ
  | .refused e => .refused (f e)
  | .breached b => .breached b

/-- The chain on nothing is a mistake of the compiler and no fault of a document. -/
def ComposeError.halt : ComposeError → Halt ComposeError
  | .statement _ _ _ (.chain e) => .breached (.chain e)
  | e => .refused e

/-- The end of the translation of a document. -/
def DocumentError.halt : DocumentError → Halt DocumentError
  | .compose e => e.halt.map .compose
  | e => .refused e

/-- The end of a compilation. -/
def CompileError.halt (e : CompileError) : Halt CompileError :=
  e.cause.halt.map fun cause => ⟨e.fullName, cause⟩

/-- A computation in which operations may be breached. -/
abbrev Guarded (ε α : Type) := Except (Halt ε) α

namespace Guarded

/-- A computation of the compiler. -/
def of (halt : ε → Halt δ) (x : Except ε α) : Guarded δ α := x.mapError halt

/-- The result of an operation that is defined on some arguments only. -/
def need (b : Breach) : Option α → Guarded ε α
  | some a => .ok a
  | none => .error (.breached b)

section

variable {ε δ α β : Type} {halt : ε → Halt δ}

@[simp] theorem of_ok {a : α} : of halt (.ok a) = .ok a := rfl

@[simp] theorem of_error {e : ε} : of halt (.error e : Except ε α) = .error (halt e) := rfl

@[simp] theorem of_pure {a : α} : of halt (pure a) = pure a := rfl

@[simp] theorem need_some {b : Breach} {a : α} : need b (some a) = (.ok a : Guarded ε α) := rfl

theorem of_map {x : Except ε α} {f : α → β} : of halt (x.map f) = (of halt x).map f := by
  cases x <;> rfl

theorem of_ite {c : Prop} [Decidable c] {x y : Except ε α} :
    of halt (if c then x else y) = if c then of halt x else of halt y := by
  split <;> rfl

/-- Two computations agree when their first steps do, and what follows agrees after every result. -/
theorem bind_eq_of {g : Guarded δ α} {x : Except ε α} {next : α → Guarded δ β}
    {next' : α → Except ε β} (hfirst : g = of halt x)
    (hnext : ∀ a, x = .ok a → next a = of halt (next' a)) : (g >>= next) = of halt (x >>= next') := by
  subst hfirst
  cases x with
  | error e => rfl
  | ok a => exact hnext a rfl

/-- An operation that is defined lets the computation go on. -/
theorem need_bind {b : Breach} {a : α} {o : Option α} {next : α → Guarded δ β} (h : o = some a) :
    (need b o >>= next) = next a := by
  subst h
  rfl

theorem mapM_eq_of {f : α → Guarded δ β} {g : α → Except ε β} : ∀ {xs : List α},
    (∀ x ∈ xs, f x = of halt (g x)) → xs.mapM f = of halt (xs.mapM g)
  | [], _ => by rw [List.mapM_nil, List.mapM_nil, of_pure]
  | x :: xs, h => by
    rw [List.forall_mem_cons] at h
    rw [List.mapM_cons, List.mapM_cons]
    exact bind_eq_of h.1 fun first _ => bind_eq_of (mapM_eq_of h.2) fun rest _ => of_pure.symm

/-- The errors of a part, seen from the whole. -/
theorem mapError_of {γ : Type} {x : Except ε α} {f : δ → γ} :
    (of halt x).mapError (Halt.map f) = of (fun e => (halt e).map f) x := by
  cases x <;> rfl

end

/-! ## Names of types -/

/-- The text with its first letter in upper case. -/
def capitalized (text : String) : Guarded ε String :=
  need .firstLetter (if text.isEmpty then none else some (Text.capitalize text))

theorem capitalized_eq {text : String} (h : text.isEmpty = false) :
    (capitalized text : Guarded ε String) = .ok (Text.capitalize text) := by
  simp [capitalized, h]

/-- The page object that a reference names. -/
def ofReference (reference : String) : Guarded TypeError NamedType :=
  match ResultType.parts '/' reference with
  | first :: second :: rest =>
    let all := first :: second :: rest
    if all.any String.isEmpty then .error (.refused (.malformedReference reference))
    else do
      let directories := (second :: rest).dropLast.map Text.lower
      let name ← capitalized (all.getLastD "")
      return { name, package := ".".intercalate (ResultType.packageOfModule first :: directories) }
  | _ => .error (.refused (.malformedReference reference))

/-- The type that a keyword or a reference stands for. -/
def ofKeyword (own : ResultType) (keyword : String) : Guarded TypeError ResultType :=
  if keyword == "void" then .ok .void
  else if keyword == "self" then .ok own
  else
    match ResultType.primitives.lookup keyword with
    | some t => .ok t
    | none =>
      if keyword.toList.contains '/' then (ofReference keyword).map .named
      else .error (.refused (.unknown keyword))

/-- The type of no keyword is open. -/
def ofKeyword? (own : ResultType) : Option String → Guarded TypeError ResultType
  | none => .ok .unset
  | some keyword => ofKeyword own keyword

/-- The type that a keyword stands for, or a list of it where all matches are asked for. -/
def resolve (own : ResultType) (keyword? : Option String) (returnAll : Bool) :
    Guarded TypeError ResultType := do
  let resolved ← ofKeyword? own keyword?
  match keyword?, returnAll, resolved with
  | some _, true, .named _ => .ok (.list resolved true)
  | some keyword, true, _ => .error (.refused (.returnAllOf keyword))
  | _, _, _ => .ok resolved

/-- The parts of a reference that is not refused are not empty, the last one among them. -/
theorem ofReference_eq (reference : String) :
    ofReference reference = of .refused (ResultType.ofReference reference) := by
  unfold ofReference ResultType.ofReference
  rcases ResultType.parts '/' reference with _ | ⟨first, _ | ⟨second, rest⟩⟩
  · rfl
  · rfl
  · dsimp only
    by_cases hempty : (first :: second :: rest).any String.isEmpty = true
    · rw [if_pos hempty, if_pos hempty]
      rfl
    · rw [if_neg hempty, if_neg hempty]
      have hlast : ((first :: second :: rest).getLastD "").isEmpty = false := by
        simp only [List.any_eq_true, not_exists, not_and, Bool.not_eq_true] at hempty
        rw [List.getLastD_eq_getLast?, List.getLast?_eq_some_getLast (by simp), Option.getD_some]
        exact hempty _ (List.getLast_mem _)
      rw [capitalized_eq hlast]
      rfl

theorem ofKeyword_eq (own : ResultType) (keyword : String) :
    ofKeyword own keyword = of .refused (ResultType.ofKeyword own keyword) := by
  unfold ofKeyword ResultType.ofKeyword
  simp only [of_ite, of_ok]
  cases ResultType.primitives.lookup keyword with
  | some t => rfl
  | none => simp only [ofReference_eq, of_ite, of_map, of_error]

theorem ofKeyword?_eq (own : ResultType) (keyword? : Option String) :
    ofKeyword? own keyword? = of .refused (ResultType.ofKeyword? own keyword?) := by
  cases keyword? with
  | none => rfl
  | some keyword => exact ofKeyword_eq own keyword

/-- **A type keyword is resolved without a breach.** -/
theorem resolve_eq (own : ResultType) (keyword? : Option String) (returnAll : Bool) :
    resolve own keyword? returnAll = of .refused (ResultType.resolve own keyword? returnAll) := by
  refine bind_eq_of (ofKeyword?_eq own keyword?) fun resolved _ => ?_
  cases keyword? <;> cases returnAll <;> cases resolved <;> rfl

/-! ## Elements -/

/-- A declared element: its type is named after a reference or after the element, and its getter after
the element. -/
def ofDeclaration (e : Element) : Guarded TypeError PageElement := do
  match e.kind with
  | .pageObject reference => let _ ← ofReference reference
  | kind => let _ ← need .firstLetter (ResultType.ofElement? e.name kind.interfaces)
  let _ ← capitalized e.name
  of .refused (PageElement.ofDeclaration e)

/-- The page object with one more declared element. -/
def declare (p : Page) (e : Element) : Guarded PageError Page := do
  let element ← (ofDeclaration e).mapError (Halt.map .type)
  of .refused (p.add element)

/-- The page object with its root and its declared elements. -/
def pageOf (d : Document) (name package : String) : Guarded PageError Page := do
  let page ← of .refused (Page.add { name, package } (.root d.interfaces d.exposeRootElement))
  d.elements.foldlM declare page

theorem ofDeclaration_eq {e : Element} (hname : e.name.isEmpty = false) :
    ofDeclaration e = of .refused (PageElement.ofDeclaration e) := by
  have hbasic : ∀ interfaces, ResultType.ofElement? e.name interfaces =
      some (ResultType.ofElement e.name interfaces) := fun interfaces => by
    simp [ResultType.ofElement?, hname]
  unfold ofDeclaration
  cases hkind : e.kind with
  | pageObject reference =>
    dsimp only
    rw [ofReference_eq, capitalized_eq hname]
    cases htype : ResultType.ofReference reference with
    | error error =>
      rw [PageElement.ofDeclaration_of_error hkind htype]
      rfl
    | ok type => rfl
  | basic interfaces =>
    dsimp only
    rw [hbasic, capitalized_eq hname]
    rfl
  | untyped =>
    dsimp only
    rw [hbasic, capitalized_eq hname]
    rfl

theorem declare_eq {p : Page} {e : Element} (hname : e.name.isEmpty = false) :
    declare p e = of .refused (p.declare e) := by
  unfold declare Page.declare
  rw [ofDeclaration_eq hname, mapError_of]
  cases PageElement.ofDeclaration e <;> rfl

/-- **Elements with names are declared without a breach.** -/
theorem pageOf_eq {d : Document} {name package : String}
    (hnames : ∀ e ∈ d.elements, e.name.isEmpty = false) :
    pageOf d name package = of .refused (PageClass.pageOf d name package) := by
  have hall : ∀ {elements : List Element} {p : Page}, (∀ e ∈ elements, e.name.isEmpty = false) →
      elements.foldlM declare p = of .refused (p.declareAll elements) := by
    intro elements p h
    induction elements generalizing p with
    | nil => rfl
    | cons e rest ih =>
      rw [List.forall_mem_cons] at h
      unfold Page.declareAll
      rw [List.foldlM_cons, List.foldlM_cons]
      exact bind_eq_of (declare_eq h.1) fun next _ => ih h.2
  exact bind_eq_of rfl fun page _ => hall hnames

/-- An element without a name, which no document that is read has, would be a breach. -/
example : pageOf { elements := [{ name := "", selector := {} }] } "Page" "" =
    .error (.breached .firstLetter) := rfl

end Guarded
end PageObjects
