import PageObjects.Proofs.Guarded.Compose
import PageObjects.Proofs.References

/-!
# Compiling without a breach

The guarded compilation of a decoded value reads it, reviews the document, declares its elements, composes
its methods and writes both sources, and uses every operation that is not defined everywhere where the
compiler uses it. Each is kept within its domain by a check that stands somewhere else. When the document is
read, names are seen to be identifiers, selectors to have one text, and statements without action to name an
element. When a reference is resolved, none of its parts is empty. When a method is composed, a chain is
refused for the first statement, an empty predicate before its last statement is looked for, and a matcher
for the number of its arguments. The taxonomy of the specification (7) has one internal error, an
`InternalContractError`, for which no document is to blame.

* `Guarded.sources`: the guarded compilation.
* `Guarded.ofValue_eq`: it is the compilation, as far as errors are the document's own.
* **`PageClass.ofSource_settles`**: a decoded object is compiled and written, or refused for a fault of the
  document, and no operation is breached.
-/

namespace PageObjects

namespace Guarded

/-- The document that a decoded value describes. The message of a refusal shows what is refused. -/
def load (v : Json) : Guarded DocumentError Document :=
  match Document.read v with
  | .done d => .ok d
  | .refused problems => do
    need .digits (if v.isWritable then some () else none)
    .error (.refused (.load (.invalid problems)))

/-- The frame of a method of a document, with the type that it declares. -/
def frameOf (page : Page) (m : Method) : Guarded ComposeError Frame :=
  ((resolve page.ownType m.returnType m.returnAll).mapError (Halt.map .type)).map fun methodReturn =>
    { page, method := m.name, methodReturn }

/-- Composes a method of a document. -/
def composeMethod (page : Page) (m : Method) : Guarded ComposeError ClassMethod := do
  let frame ← frameOf page m
  let composition ← compose frame m.compose
  return PageClass.methodOf m.name m.description true composition

/-- Composes the statements that run before loading, if there are any. -/
def composeBeforeLoad (page : Page) (statements : List Statement) :
    Guarded ComposeError (Option ClassMethod) :=
  if statements.isEmpty then .ok none
  else (compose (PageClass.beforeLoadFrame page) statements).map fun c =>
    some (PageClass.methodOf PageClass.beforeLoadName none false c)

/-- Composes every method. -/
def composeAll (page : Page) (d : Document) :
    Guarded ComposeError (List ClassMethod × Option ClassMethod) := do
  let methods ← d.methods.mapM (composeMethod page)
  let beforeLoad ← composeBeforeLoad page d.beforeLoad
  return (methods, beforeLoad)

/-- The texts of the selectors of a document. -/
def selectorTexts (d : Document) : Guarded ε (List String) :=
  d.selectors.mapM fun s => need .selectorText (s.text? s.dialect)

/-- The page class of a document. The texts of its selectors are reviewed, and written in the end. -/
def build (d : Document) (name package : String) : Guarded DocumentError PageClass := do
  let _ ← selectorTexts d
  match d.findings with
  | [] =>
    let page ← (pageOf d name package).mapError (Halt.map .page)
    let (methods, beforeLoad) ← (composeAll page d).mapError (Halt.map .compose)
    let _ ← selectorTexts d
    return PageClass.assemble page d methods beforeLoad
  | findings => .error (.refused (.review findings))

/-- The page class of a decoded value; an error names the page object. -/
def ofValue (v : Json) (name package : String) : Guarded CompileError PageClass :=
  (load v >>= fun d => build d name package).mapError
    (Halt.map fun cause => ⟨qualified package name, cause⟩)

/-- The sources of the page class of a decoded value. -/
def sources (v : Json) (name package : String) : Guarded CompileError Java.Sources := do
  let pc ← ofValue v name package
  need .elementType (Java.sources? pc)

/-! ## Agreement -/

variable {d : Document} {page : Page} {name package : String}

theorem frameOf_eq {m : Method} : frameOf page m = run (PageClass.frameOf page m) := resolved_eq

theorem composeAll_eq (hkept : d.Kept) (hwritable : d.Writable) :
    composeAll page d = run (PageClass.composeAll page d) := by
  refine bind_eq_of (mapM_eq_of fun m hm => ?_) fun methods _ => bind_eq_of ?_ fun _ _ => rfl
  · exact bind_eq_of frameOf_eq fun frame _ =>
      bind_eq_of (compose_eq (hkept.methods m hm) (hwritable.methods m hm)) fun _ _ => rfl
  · unfold composeBeforeLoad PageClass.composeBeforeLoad
    rw [compose_eq hkept.beforeLoad hwritable.beforeLoad]
    split
    · rfl
    · exact of_map.symm

theorem selectorTexts_eq (hwritable : d.Writable) :
    (selectorTexts d : Guarded ε (List String)) = .ok (d.selectors.map Selector.value) :=
  mapM_eq_ok fun s hs => by rw [hwritable.selectors s hs, need_some]

/-- An element that was read has a name. -/
theorem isEmpty_name {e : Element} (h : e.check = .ok e) : e.name.isEmpty = false := by
  have hidentifier := Element.isIdentifier_of_check h
  rw [String.isEmpty_eq_false_iff]
  intro hempty
  rw [hempty] at hidentifier
  exact absurd hidentifier (by decide)

theorem build_eq (hkept : d.Kept) (hwritable : d.Writable) :
    build d name package = of DocumentError.halt (PageClass.build d name package) := by
  unfold build PageClass.build
  rw [selectorTexts_eq hwritable, ok_bind]
  cases d.findings with
  | cons finding findings => rfl
  | nil =>
    dsimp only
    rw [pageOf_eq fun e he => isEmpty_name (hkept.elements e he), mapError_of]
    cases PageClass.pageOf d name package with
    | error e => rfl
    | ok page =>
      dsimp only
      rw [of_ok, ok_bind, composeAll_eq hkept hwritable, mapError_of]
      cases PageClass.composeAll page d <;> rfl

/-- **The guarded compilation of a writable value** is the compilation. -/
theorem ofValue_eq {v : Json} (hv : v.isWritable = true) :
    ofValue v name package = of CompileError.halt (PageClass.ofSource (.value v) name package) := by
  cases hread : Document.read v with
  | refused problems =>
    simp only [ofValue, load, PageClass.ofSource, Document.load, Document.ofValue, hread, hv]
    rfl
  | done d =>
    simp only [ofValue, load, PageClass.ofSource, Document.load, Document.ofValue, hread, ok_bind,
      PageClass.ofDocument]
    rw [build_eq (Document.read_kept hread) (Document.read_writable hv hread), mapError_of]
    cases PageClass.build d name package <;> rfl

end Guarded

/-! ## Outcomes -/

/-- The families of the errors by which a document is refused. -/
def ErrorKind.ofDocument : List ErrorKind :=
  [.grammar, .unknownAction, .returnTypeConflict, .chainReference, .predicate]

/-- A spared error is one of the document, and no chain on nothing. -/
theorem ComposeError.Spares.refused {P : String → Prop} {e : ComposeError} (h : e.Spares P) :
    e.halt = .refused e ∧ e.kind ∈ ErrorKind.ofDocument := by
  cases e with
  | statement method index inPredicate fault =>
    cases fault with
    | chain e => exact absurd h id
    | _ => exact ⟨rfl, by simp [kind, StatementFault.kind, ErrorKind.ofDocument]⟩
  | _ => exact ⟨rfl, by simp [kind, ErrorKind.ofDocument]⟩

namespace PageClass

variable {name package : String}

/-- A decoded value is refused for a fault of the document: it has not the shape of one, the review has
findings, its page is not made, or a method is not composed for an error that is spared. -/
theorem ofSource_refused {v : Json} {e : CompileError}
    (h : ofSource (.value v) name package = .error e) :
    e.halt = .refused e ∧ e.kind ∈ ErrorKind.ofDocument ∧ e.cause.limit? = none := by
  obtain ⟨fullName, cause⟩ := e
  cases hload : Document.load (.value v) with
  | error error =>
    simp only [ofSource, hload] at h
    obtain ⟨rfl, rfl⟩ := CompileError.mk.inj (Except.error.inj h)
    have hinvalid : ∃ problems, error = .invalid problems := by
      unfold Document.load Document.ofValue at hload
      cases hread : Document.read v with
      | done d => simp [hread] at hload
      | refused problems => exact ⟨problems, by simpa [hread, eq_comm] using hload⟩
    obtain ⟨problems, rfl⟩ := hinvalid
    exact ⟨rfl, List.mem_cons_self, rfl⟩
  | ok d =>
    cases hreview : d.findings with
    | cons finding findings =>
      simp only [ofSource, hload, ofDocument, build, hreview] at h
      obtain ⟨rfl, rfl⟩ := CompileError.mk.inj (Except.error.inj h)
      exact ⟨rfl, List.mem_cons_self, rfl⟩
    | nil =>
      obtain ⟨-, ⟨e', -, hcause⟩ | ⟨page, e', hpage, hall, hcause⟩⟩ :=
        (ofSource_eq_error hload hreview).mp h
      · obtain rfl : cause = _ := hcause
        exact ⟨rfl, List.mem_cons_self, rfl⟩
      · obtain rfl : cause = _ := hcause
        have hspared := composeAll_faults (Document.load_kept hload)
          (Document.reviewed_of_findings hreview) hpage e' hall
        obtain ⟨hhalt, hkind⟩ := hspared.refused
        refine ⟨?_, hkind, rfl⟩
        simp only [CompileError.halt, DocumentError.halt, hhalt, Halt.map]

/-- The elements of a page class have types that can be written. -/
theorem exists_sources {source : Source} {pc : PageClass}
    (h : ofSource source name package = .ok pc) : ∃ sources, Java.sources? pc = some sources := by
  obtain ⟨d, page, methods, beforeLoad, -, -, -, rfl⟩ := ofSource_eq_ok h
  have hwritable : ∀ e : PageElement, Java.isWritable (Getter.ofElement e) = true := by
    intro e
    unfold Java.isWritable Java.elementType Getter.ofElement PageElement.returnType
    cases e.isList <;> rfl
  refine ⟨_, if_pos ?_⟩
  rw [assemble, List.all_map, List.all_eq_true]
  exact fun e _ => hwritable e

/-- **A decoded object is compiled and written, or refused for a fault of the document.** Its integers can
be written. In both cases the guarded compilation does the same: no operation is used where it is not
defined, at any depth. -/
theorem ofSource_settles {fields : Fields} (hdigits : (Json.object fields).isWritable = true) :
    (∃ pc sources, ofSource (.value (.object fields)) name package = .ok pc ∧
      Java.sources? pc = some sources ∧
      Guarded.sources (.object fields) name package = .ok sources) ∨
    ∃ e, ofSource (.value (.object fields)) name package = .error e ∧
      Guarded.sources (.object fields) name package = .error (.refused e) ∧
      e.kind ∈ ErrorKind.ofDocument ∧ e.cause.limit? = none := by
  have hguarded := @Guarded.ofValue_eq name package (.object fields) hdigits
  unfold Guarded.sources
  cases h : ofSource (.value (.object fields)) name package with
  | ok pc =>
    obtain ⟨sources, hsources⟩ := exists_sources h
    rw [h] at hguarded
    refine Or.inl ⟨pc, sources, rfl, hsources, ?_⟩
    rw [hguarded, Guarded.of_ok, ok_bind, hsources, Guarded.need_some]
  | error e =>
    obtain ⟨hhalt, hkind, hlimit⟩ := ofSource_refused h
    rw [h] at hguarded
    refine Or.inr ⟨e, rfl, ?_, hkind, hlimit⟩
    rw [hguarded, Guarded.of_error, hhalt]
    rfl

/-- A page object whose method waits for the text of a slider, flicks it, and chains on it. -/
def sliderFields : Fields :=
  [("elements", .list [.object [("name", .text "slider"), ("type", .list [.text "touchable"]),
      ("selector", .object [("css", .text "input")])]]),
    ("methods", .list [.object [("name", .text "slide"), ("compose", .list
      [.object [("apply", .text "waitFor"), ("predicate", .list
        [.object [("element", .text "slider"), ("apply", .text "getText"),
          ("matcher", .object [("type", .text "stringContains"),
            ("args", .list [.object [("value", .text "on")]])])]])],
      .object [("element", .text "slider"), ("apply", .text "flick"),
        ("args", .list [.object [("value", .int 3)], .object [("value", .int (-2))]])],
      .object [("element", .text "slider")],
      .object [("chain", .bool true), ("apply", .text "isPresent")]])]])]

theorem sliderFields_settles : (Json.object sliderFields).isWritable = true ∧
    ∃ pc sources, ofSource (.value (.object sliderFields)) "Page" "" = .ok pc ∧
      Java.sources? pc = some sources ∧
      Guarded.sources (.object sliderFields) "Page" "" = .ok sources := by
  have hdigits : (Json.object sliderFields).isWritable = true := by decide
  have hok : (ofSource (.value (.object sliderFields)) "Page" "").toOption.any (fun _ => true) = true := by
    decide
  obtain ⟨pc, hpc, -⟩ := exists_eq_ok hok
  obtain h | ⟨e, he, -⟩ := @ofSource_settles "Page" "" sliderFields hdigits
  · exact ⟨hdigits, h⟩
  · exact absurd (hpc.symm.trans he) (by simp)

end PageClass
end PageObjects
