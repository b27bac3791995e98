import PageObjects.Proofs.Compose.Parameters
import PageObjects.Proofs.Document.Review
import PageObjects.Proofs.Methods

/-!
# Before loading

The statements that run before a page object counts as loaded can rely on nothing that loading brings:
there are no elements yet but the root, and nobody calls the method with arguments. The review refuses
other elements and parameters at every depth; the translation sends statements that name no element to the
root, and returns the page object where there is no value. Together they make a method of one shape. These
are the `beforeLoad` restrictions of the Page Object Validator (specification, 2) and `Object load()` of
the Compose Method Builder (4.2).

* `Composition.getters`: the getters that the code of a method calls, in its closures as well.
* `Frame.RootOnly`: on the names of every page object, a page finds the root alone.
* `compose_getters`: a method of early statements calls the getter of the root alone.
* **`PageClass.ofSource_beforeLoad`**: the method that runs before loading is closed.
-/

namespace PageObjects

/-! ## Getters -/

/-- The getters that an expression calls. -/
def Simple.getters : Simple → List String
  | .getter name => [name]
  | .call _ => []

/-- The getters that an expression calls, those of the lines of its closure if it is a wait. -/
def Expression.getters : Expression → List String
  | .simple value => value.getters
  | .wait closure _ => (closure.filterMap Line.value?).flatMap Simple.getters

/-- The getters that the code of a method calls: those of look-ups, and those of statements that are
nothing but an element. -/
def Composition.getters (c : Composition) : List String :=
  c.statements.flatMap fun b => b.values.flatMap Expression.getters

variable {frame : Frame} {site : Site} {s : Statement} {lookups : Lookups} {name : String}

/-- Of the names that stand for an element in every page object the page knows that of the root alone, and
statements that name no element use the root. -/
structure Frame.RootOnly (frame : Frame) : Prop where
  found : ∀ name ∈ reservedElements, ∀ element, frame.page.find? name = some element →
    element.getter = "getRootElement"
  default : frame.defaultElement = some "root"

/-! ## Statements -/

theorem Statement.Early.reserved (h : s.Early) (hname : s.element = some name) :
    name ∈ reservedElements := by
  simpa [Statement.refersTo, hname] using h.refers

theorem Frame.Finds.getters {r : Receiver} {lines : List (Line Simple)} {after : Lookups}
    (hroot : frame.RootOnly) (hs : s.Early) (h : frame.Finds site lookups s r lines after) :
    ∀ g ∈ (lines.filterMap Line.value?).flatMap Simple.getters, g = "getRootElement" := by
  cases h with
  | @fresh name element hname helement hfree =>
    have hreserved : name ∈ reservedElements := by
      cases hown : s.element with
      | some own =>
        obtain rfl : own = name := by simpa [hown] using hname
        exact hs.reserved hown
      | none =>
        obtain rfl : "root" = name := by simpa [hown, hroot.default] using hname
        decide
    intro g hg
    obtain rfl : g = element.getter := by simpa [Line.value?, Simple.getters] using hg
    exact hroot.found name hreserved element helement
  | _ => intro g hg; exact absurd hg (by simp)

/-- An early statement looks up the root alone, and evaluates to no other element. -/
theorem Frame.Acts.getters {b : Built Simple} {after : Lookups} {ps : List Parameter}
    (hroot : frame.RootOnly) (hkept : s.Kept) (hs : s.Early) (h : frame.Acts site lookups s b after ps) :
    ∀ g ∈ b.values.flatMap Simple.getters, g = "getRootElement" := by
  obtain ⟨-, hreaches, hevaluates, hyields⟩ := h
  rw [hyields.values_append, List.flatMap_append, List.forall_mem_append]
  constructor
  · cases hreaches with
    | nothing haction => intro g hg; exact absurd hg (by simp)
    | receiver haction haddresses =>
      cases haddresses with
      | element hchain hfinds => exact hfinds.getters hroot hs
      | chain hchain hchains => intro g hg; exact absurd hg (by simp)
  · cases hevaluates with
    | @getter element haction helement hfits =>
      obtain ⟨-, name, hname⟩ := hkept.element_of_action haction
      rw [hname, Option.getD_some] at helement
      intro g hg
      obtain rfl : g = element.getter := by simpa [Simple.getters] using hg
      exact hroot.found name (hs.reserved hname) element helement
    | call haction hof hoperands => intro g hg; exact absurd hg (by simp [Simple.getters])

/-! ## Methods -/

theorem Frame.composePredicate_getters {parameters ps : List Parameter} {ss : List Statement}
    {inner : List (Built Simple)} (hroot : frame.RootOnly) (hss : ∀ s ∈ ss, s.Kept ∧ s.Early)
    (h : frame.composePredicate parameters ss = .ok (inner, ps)) :
    ∀ b ∈ inner, ∀ g ∈ b.values.flatMap Simple.getters, g = "getRootElement" := by
  obtain ⟨last, hwalk, -⟩ := Frame.composePredicate_threaded h
  refine hwalk.attach.forall_mem (fun _ => True) trivial ?_
  rintro i before s rest b after - ⟨hs, hstep⟩
  obtain ⟨site, more, -, hacts, -⟩ := hstep.acts
  exact ⟨hacts.getters hroot (hss s hs).1 (hss s hs).2, trivial⟩

theorem Frame.MethodStep.getters {count index : Nat} {before after : Trail} {rest : List Statement}
    {b : Built Expression} (hroot : frame.RootOnly) (hkept : s.Kept) (hs : s.Early)
    (h : frame.MethodStep count index before s rest b after) :
    ∀ g ∈ b.values.flatMap Expression.getters, g = "getRootElement" := by
  obtain ⟨site, -, hstep⟩ := h
  obtain ⟨-, b', hwaits, rfl⟩ | ⟨-, b', hstep', rfl⟩ := Frame.composeStatement_cases hstep
  · cases hwaits with
    | mk hinner hpredicate hyields =>
      have hinside := Frame.composePredicate_getters hroot
        (fun s' hs' => ⟨hkept.of_inner hs', hs.of_inner hs'⟩) hpredicate
      rw [Frame.finish_values, hyields.values_eq, List.flatMap_singleton, Expression.getters,
        List.filterMap_flatMap, List.flatMap_assoc]
      intro g hg
      obtain ⟨b'', hb'', hg⟩ := List.mem_flatMap.mp hg
      exact hinside b'' hb'' g hg
  · obtain ⟨more, hacts, -⟩ := Frame.stepAction_acts hstep'
    rw [Frame.finish_values, Built.values_map, List.flatMap_map]
    exact hacts.getters hroot hkept hs

/-- **A method of early statements** calls the getter of the root and no other. -/
theorem compose_getters {ss : List Statement} {c : Composition} (hroot : frame.RootOnly)
    (hss : ∀ s ∈ ss, s.Kept ∧ s.Early) (h : compose frame ss = .ok c) :
    ∀ g ∈ c.getters, g = "getRootElement" := by
  obtain ⟨last, -, hwalk, -⟩ := compose_threaded h
  have hbuilt : ∀ b ∈ c.statements, ∀ g ∈ b.values.flatMap Expression.getters, g = "getRootElement" := by
    refine hwalk.attach.forall_mem (fun _ => True) trivial ?_
    rintro i before s rest b after - ⟨hs, hstep⟩
    exact ⟨hstep.getters hroot (hss s hs).1 (hss s hs).2, trivial⟩
  intro g hg
  obtain ⟨b, hb, hg⟩ := List.mem_flatMap.mp hg
  exact hbuilt b hb g hg

theorem Statement.Early.isLiteral (h : s.Early) : ∀ a ∈ s.arguments, a.isLiteral = true := by
  have hown : ∀ s : Statement, s.Early → ∀ a ∈ s.ownArguments, a.isLiteral = true := by
    intro s hs a ha
    refine List.all_eq_true.mp hs.literals a ?_
    rcases List.mem_append.mp ha with hcall | hmatcher
    · split at hcall
      · exact List.mem_append_left _ hcall
      · exact absurd hcall (by simp)
    · exact List.mem_append_right _ hmatcher
  intro a ha
  unfold Statement.arguments at ha
  split at ha
  · obtain ⟨s', hs', ha⟩ := List.mem_flatMap.mp ha
    exact hown s' (h.of_inner hs') a ha
  · exact hown s h a ha

/-- **A method of early statements** has no parameters: a parameter is an argument that is no literal. -/
theorem compose_parameters_eq_nil {ss : List Statement} {c : Composition}
    (hss : ∀ s ∈ ss, s.Early) (h : compose frame ss = .ok c) : c.parameters = [] := by
  obtain ⟨hrendered, hgathered⟩ := compose_gathered h
  refine List.eq_nil_iff_forall_not_mem.mpr fun p hp => ?_
  obtain ⟨o, ho, hparameter⟩ := List.mem_filterMap.mp (hgathered.mem_iff.mp hp)
  cases o with
  | literal value => exact absurd hparameter (by simp [Operand.parameter?])
  | parameter q =>
    obtain ⟨a, ha, hargument⟩ := hrendered.exists_argument ho
    obtain ⟨-, keyword, rfl, -⟩ := Operand.ofArgument_parameter hargument
    obtain ⟨s, hs, ha⟩ := List.mem_flatMap.mp ha
    exact absurd ((hss s hs).isLiteral _ ha) (by simp [Argument.isLiteral])

/-- Where a value is required, the last statement returns. -/
theorem Emitted.Disciplined.returns_of_required {e : Emitted} {i count : Nat}
    (h : e.Disciplined true i count) (hlast : i + 1 = count) : ∃ v, e.returns = ["return " ++ v] := by
  rw [h.returns, Emitted.expectedReturns, h.isLast.mpr hlast]
  cases e.variableName with
  | some v => exact ⟨v, rfl⟩
  | none => exact ⟨"this", by rw [Bool.or_true]; rfl⟩

/-- **A method that requires a value ends with a line that returns.** -/
theorem compose_ends {ss : List Statement} {c : Composition} (hpage : frame.page.Made)
    (hreturn : frame.methodReturn.Plain) (hvalue : frame.requiresValue = true)
    (h : compose frame ss = .ok c) : ∃ v, c.body.codeLines.getLast? = some ("return " ++ v) := by
  obtain ⟨last, b, hwalk, hb, -, -⟩ := compose_threaded h
  have hlength := hwalk.length_eq
  obtain ⟨bs, hbs⟩ := List.getLast?_eq_some_iff.mp hb
  have hcount : bs.length + 1 = ss.length := by simpa [hbs] using hlength
  have he : c.body.statements[bs.length]? = some b.emitted := by simp [Composition.body, hbs]
  obtain ⟨htype, hdisciplined, -⟩ := compose_statement_disciplined hpage h he
  have hlast := hdisciplined fun _ => htype.elim id fun hdeclared => hdeclared.2 ▸ hreturn
  rw [hvalue] at hlast
  obtain ⟨v, hv⟩ := hlast.returns_of_required hcount
  refine ⟨v, ?_⟩
  have hlines := hlast.codeLines
  rw [hv] at hlines
  simp [Composition.body, Body.codeLines, hbs, hlines]

/-! ## Page classes -/

namespace PageClass

variable {source : Source} {package : String} {pc : PageClass} {d : Document}

/-- What a page is made of: of the names of every page object it knows that of the root alone. -/
theorem beforeLoadFrame_rootOnly {page : Page} (hkept : d.Kept)
    (hpage : pageOf d name package = .ok page) : (beforeLoadFrame page).RootOnly where
  default := rfl
  found reserved hreserved element helement := by
    have hunreserved := (pageOf_made hkept hpage).unreserved element
      (List.mem_of_find?_eq_some helement)
    rw [Page.name_of_find? helement] at hunreserved
    obtain rfl : reserved = "root" := by
      simp only [reservedElements, List.mem_cons, List.not_mem_nil, or_false] at hreserved
      tauto
    rw [root_of_find? hpage helement]
    rfl

/-- The method that runs before loading depends on nothing but the page object and its root: it is declared
without parameters, and it returns. None of its statements, at any depth, names another element or uses a
parameter, and its code calls the getter of the root alone. -/
structure ClosedBeforeLoad (d : Document) (m : ClassMethod) (c : Composition) : Prop where
  body : m.body = c.body
  declared : m.signature.code = "Object load()"
  parameters : m.signature.parameters = []
  returns : ∃ v, m.body.codeLines.getLast? = some ("return " ++ v)
  early : ∀ s ∈ d.beforeLoad, s.Early
  root : ∀ g ∈ c.getters, g = (PageElement.root d.interfaces d.exposeRootElement).getter

/-- **The method that runs before loading is closed.** -/
theorem ofSource_beforeLoad (hload : Document.load source = .ok d) (hne : d.beforeLoad ≠ [])
    (h : ofSource source name package = .ok pc) :
    ∃ m page c, pc.beforeLoad = some m ∧ pageOf d name package = .ok page ∧
      compose (beforeLoadFrame page) d.beforeLoad = .ok c ∧ ClosedBeforeLoad d m c := by
  obtain ⟨d', page, methods, beforeLoad, hload', hreview, hpage, hall, rfl⟩ := ofSource_eq_ok_iff.mp h
  obtain rfl : d = d' := Except.ok.inj (hload.symm.trans hload')
  have hkept := Document.load_kept hload
  have haccepted := Document.findings_eq_nil.mp hreview
  have hroot := beforeLoadFrame_rootOnly hkept hpage
  simp only [composeAll, bind_eq_ok] at hall
  obtain ⟨methods', -, beforeLoad', hbeforeLoad, he⟩ := hall
  obtain ⟨rfl, rfl⟩ := Prod.mk.inj (pure_eq_ok.mp he)
  unfold composeBeforeLoad at hbeforeLoad
  rw [if_neg (by simpa using hne)] at hbeforeLoad
  obtain ⟨c, hc, rfl⟩ := map_eq_ok.mp hbeforeLoad
  have hparameters := compose_parameters_eq_nil haccepted.early hc
  have htype : c.returnType = .object := by
    obtain ⟨-, b, -, -, htype, -⟩ := compose_threaded hc
    exact (Except.ok.inj htype).symm
  refine ⟨_, page, c, rfl, hpage, hc, ?_⟩
  exact {
    body := rfl
    declared := by
      simp only [methodOf, Signature.code, hparameters, htype]
      decide
    parameters := hparameters
    returns := compose_ends (pageOf_made hkept hpage)
      (by trivial : (beforeLoadFrame page).methodReturn.Plain) rfl hc
    early := haccepted.early
    root := compose_getters hroot
      (fun s hs => ⟨hkept.beforeLoad s hs, haccepted.early s hs⟩) hc }

/-- A page object that waits for its root before loading, and looks whether it can be clicked. -/
def waitingSource : Source :=
  .value (.object
    [("type", .list [.text "clickable"]),
    ("elements", .list [.object [("name", .text "first"),
      ("selector", .object [("css", .text "b")])]]),
    ("beforeLoad", .list
      [.object [("apply", .text "waitFor"), ("predicate", .list
        [.object [("element", .text "root"), ("apply", .text "isVisible")]])],
      .object [("apply", .text "click")]])])

theorem waitingSource_beforeLoad : ∃ d pc m page c, Document.load waitingSource = .ok d ∧
    d.beforeLoad ≠ [] ∧ ofSource waitingSource "Page" "" = .ok pc ∧ pc.beforeLoad = some m ∧
    pageOf d "Page" "" = .ok page ∧ compose (beforeLoadFrame page) d.beforeLoad = .ok c ∧
    ClosedBeforeLoad d m c := by
  have hok : (ofSource waitingSource "Page" "").toOption.any (fun _ => true) = true := by decide
  obtain ⟨pc, hpc, -⟩ := exists_eq_ok hok
  have hloads : (Document.load waitingSource).toOption.any (fun d => !d.beforeLoad.isEmpty) = true := by
    decide
  obtain ⟨d, hload, hne⟩ := exists_eq_ok hloads
  have hstatements : d.beforeLoad ≠ [] := by simpa using hne
  obtain ⟨m, page, c, hm, hpage, hc, hclosed⟩ := ofSource_beforeLoad hload hstatements hpc
  exact ⟨d, pc, m, page, c, hload, hstatements, hpc, hm, hpage, hc, hclosed⟩

end PageClass

end PageObjects
