import PageObjects.Proofs.Compose.Stops
import PageObjects.Proofs.Document.Grammar
import PageObjects.Proofs.Methods
import PageObjects.Proofs.References

/-!
# Places in error messages

When a document that is loaded without findings, and whose elements are declared, is not translated, then
either the type that a method declares is not one on the page, or composing stops at a statement. The
message starts with the page object, and goes on with the method and the index of that statement, except
for the statements whose errors come from the page: those with an unknown type or a wrong `returnAll`, and
those that are nothing but `self` or `document`. Of these the message says no place at all. The
specification (4.2) has errors identify the page object, the method and the index of the statement.

* `PageClass.StopsAt`: the statement at which translating a document stops.
* `PageClass.composeAll_eq_error`: how composing the methods of a document fails.
* `CompileError.Locates`: a message that starts with a place.
* **`PageClass.ofSource_located`**: the messages that do, and those that do not.
-/

namespace PageObjects

/-! ## Messages -/

/-- The message of the error starts with the page object, the method and the index of a statement, which may
stand in a predicate. -/
def CompileError.Locates (e : CompileError) (method : String) (index : Nat) (inPredicate : Bool) : Prop :=
  ∃ text, e.message = s!"page object '{e.fullName}': method '{method}', statement {index}" ++
    (if inPredicate then " of predicate" else "") ++ ": " ++ text

section

variable {fullName method : String} {index : Nat} {inPredicate : Bool}

/-- The place that a message starts with is the page object, and behind it the place of the statement. -/
theorem place_eq : s!"page object '{fullName}': method '{method}', statement {index}" ++
    (if inPredicate then " of predicate" else "") =
      s!"page object '{fullName}': " ++ statementPlace method index inPredicate := by
  have hjoin : "': method '" = "': " ++ "method '" := rfl
  simp only [statementPlace, hjoin, String.append_assoc, toString]
  rfl

theorem CompileError.locates_fault {fault : StatementFault} : CompileError.Locates
    ⟨fullName, .compose (.statement method index inPredicate fault)⟩ method index inPredicate := by
  refine ⟨fault.message, ?_⟩
  rw [place_eq]
  show s!"page object '{fullName}': " ++ (statementPlace method index inPredicate ++ ": " ++ fault.message) = _
  simp only [String.append_assoc]

theorem CompileError.locates_returnType {declared last : ResultType} : CompileError.Locates
    ⟨fullName, .compose (.returnType method index declared last)⟩ method index false := by
  refine ⟨s!"method declares '{declared.simpleName}' but last statement returns '{last.simpleName}'", ?_⟩
  rw [place_eq]
  show s!"page object '{fullName}': " ++ (ComposeError.returnType method index declared last).message = _
  have hjoin : ": method declares '" = ": " ++ "method declares '" := rfl
  unfold ComposeError.message statementPlace
  simp only [hjoin, String.append_assoc, toString]
  rfl

/-- A message that does not go on with a method behind the page object has no place. -/
theorem CompileError.not_locates {e : CompileError} (h : e.cause.message.toList.head? ≠ some 'm') :
    ¬ e.Locates method index inPredicate := by
  rintro ⟨text, hmessage⟩
  rw [place_eq] at hmessage
  unfold message statementPlace at hmessage
  simp only [String.append_assoc, String.append_right_inj, toString] at hmessage
  rw [hmessage, String.toList_append] at h
  exact h rfl

theorem head?_append_ne {start rest : String} {c : Char} (hne : start.toList ≠ [])
    (h : start.toList.head? ≠ some c) : (start ++ rest).toList.head? ≠ some c := by
  rw [String.toList_append, List.head?_append_of_ne_nil _ hne]
  exact h

theorem TypeError.message_head? (t : TypeError) : t.message.toList.head? ≠ some 'm' := by
  unfold message
  cases t
  all_goals
    simp only [String.append_assoc]
    exact head?_append_ne (by decide) (by decide)

theorem PageError.unknownElement_head? {element page : String} {known : List String} :
    (PageError.unknownElement element page known).message.toList.head? ≠ some 'm' := by
  unfold message
  simp only [String.append_assoc]
  exact head?_append_ne (by decide) (by decide)

/-- **A message starts with the place of the statement that is refused** unless the error comes from the
page. -/
theorem Frame.Reports.locates {frame : Frame} {s : Statement} {e : ComposeError}
    (h : frame.Reports s index inPredicate e) :
    (¬ s.Unplaced frame.page →
      CompileError.Locates ⟨fullName, .compose e⟩ frame.method index inPredicate) ∧
    (s.Unplaced frame.page → ∀ method index inPredicate,
      ¬ CompileError.Locates ⟨fullName, .compose e⟩ method index inPredicate) := by
  cases h with
  | fault hplaced => exact ⟨fun _ => CompileError.locates_fault, fun h => absurd h hplaced⟩
  | returnType hplaced hmethod =>
    obtain rfl := hmethod
    exact ⟨fun _ => CompileError.locates_returnType, fun h => absurd h hplaced⟩
  | @type t ht =>
    exact ⟨fun h => absurd (Or.inl ⟨t, ht⟩) h, fun _ _ _ _ => CompileError.not_locates t.message_head?⟩
  | element hbare hname =>
    exact ⟨fun h => absurd (Or.inr hbare) h, fun _ _ _ _ =>
      CompileError.not_locates PageError.unknownElement_head?⟩

end

/-! ## Documents -/

namespace PageClass

variable {d : Document} {name package : String} {page : Page} {e : ComposeError}

/-- Translating a document stops with an error at a statement of a method, of the given name, or of those
that run before loading. The methods in front of it are composed. -/
inductive StopsAt (page : Page) (d : Document) (e : ComposeError) :
    String → Statement → Nat → Bool → Prop
  | method {front back : List Method} {m : Method} {frame : Frame} {s : Statement} {i : Nat}
      {inPredicate : Bool} (hmethods : d.methods = front ++ m :: back)
      (hfront : ∀ m' ∈ front, ∃ c, composeMethod page m' = .ok c) (hframe : frameOf page m = .ok frame)
      (hstops : frame.StopsAt m.compose e s i inPredicate) : StopsAt page d e m.name s i inPredicate
  | beforeLoad {s : Statement} {i : Nat} {inPredicate : Bool}
      (hmethods : ∀ m ∈ d.methods, ∃ c, composeMethod page m = .ok c)
      (hstops : (beforeLoadFrame page).StopsAt d.beforeLoad e s i inPredicate) :
      StopsAt page d e beforeLoadName s i inPredicate

/-- The type that a method declares is not one on the page. The methods in front of it are composed. -/
def RefusesType (page : Page) (d : Document) (e : ComposeError) : Prop :=
  ∃ front m back t, d.methods = front ++ m :: back ∧
    (∀ m' ∈ front, ∃ c, composeMethod page m' = .ok c) ∧
    page.resolve m.returnType m.returnAll = .error t ∧ e = .type t

theorem frameOf_eq_error {m : Method} : frameOf page m = .error e ↔
    ∃ t, page.resolve m.returnType m.returnAll = .error t ∧ e = .type t := by
  unfold frameOf
  cases page.resolve m.returnType m.returnAll <;> simp [eq_comm]

theorem composeMethod_eq_error {m : Method} : composeMethod page m = .error e ↔
    frameOf page m = .error e ∨ ∃ frame, frameOf page m = .ok frame ∧
      compose frame m.compose = .error e := by
  unfold composeMethod
  cases frameOf page m with
  | error e' => simp [bind, Except.bind]
  | ok frame =>
    rw [ok_bind]
    cases hcompose : compose frame m.compose <;> simp [bind, Except.bind, pure, Except.pure, hcompose]

theorem composeBeforeLoad_eq_error : composeBeforeLoad page d.beforeLoad = .error e ↔
    ∃ s i inPredicate, (beforeLoadFrame page).StopsAt d.beforeLoad e s i inPredicate := by
  unfold composeBeforeLoad
  cases hstatements : d.beforeLoad with
  | nil =>
    simp only [List.isEmpty_nil, if_true, reduceCtorEq, false_iff]
    rintro ⟨s, i, inPredicate, h⟩
    exact h.ne_nil rfl
  | cons s rest =>
    rw [← compose_eq_error_iff (by simp)]
    simp only [List.isEmpty_cons, Bool.false_eq_true, if_false]
    cases compose (beforeLoadFrame page) (s :: rest) <;> simp [Except.map]

/-- **How composing the methods of a document fails**: the type that a method declares is not one on the page,
or composing stops at a statement. -/
theorem composeAll_eq_error (hne : ∀ m ∈ d.methods, m.compose ≠ []) :
    composeAll page d = .error e ↔ RefusesType page d e ∨
      ∃ method s i inPredicate, StopsAt page d e method s i inPredicate := by
  unfold composeAll
  constructor
  · intro h
    cases hmethods : d.methods.mapM (composeMethod page) with
    | error e' =>
      rw [hmethods] at h
      obtain rfl : e' = e := Except.error.inj h
      obtain ⟨front, m, back, hsplit, hfront, hm⟩ := mapM_eq_error.mp hmethods
      rcases composeMethod_eq_error.mp hm with hframe | ⟨frame, hframe, hcompose⟩
      · obtain ⟨t, ht, rfl⟩ := frameOf_eq_error.mp hframe
        exact Or.inl ⟨front, m, back, t, hsplit, hfront, ht, rfl⟩
      · obtain ⟨s, i, inPredicate, hstops⟩ :=
          (compose_eq_error_iff (hne m (by rw [hsplit]; simp))).mp hcompose
        exact Or.inr ⟨_, s, i, inPredicate, .method hsplit hfront hframe hstops⟩
    | ok methods =>
      rw [hmethods, ok_bind] at h
      have hbeforeLoad : composeBeforeLoad page d.beforeLoad = .error e := by
        cases hbeforeLoad : composeBeforeLoad page d.beforeLoad with
        | error e' =>
          rw [hbeforeLoad] at h
          exact congrArg _ (Except.error.inj h)
        | ok b =>
          rw [hbeforeLoad] at h
          exact absurd h (by simp [bind, Except.bind, pure, Except.pure])
      obtain ⟨s, i, inPredicate, hstops⟩ := composeBeforeLoad_eq_error.mp hbeforeLoad
      exact Or.inr ⟨_, s, i, inPredicate, .beforeLoad (mapM_isOk.mp ⟨methods, hmethods⟩) hstops⟩
  · rintro (⟨front, m, back, t, hsplit, hfront, ht, rfl⟩ | ⟨method, s, i, inPredicate, h⟩)
    · have hm := composeMethod_eq_error.mpr (Or.inl (frameOf_eq_error.mpr ⟨t, ht, rfl⟩))
      rw [mapM_eq_error.mpr ⟨front, m, back, hsplit, hfront, hm⟩]
      rfl
    · cases h with
      | @method front back m frame _ _ _ hsplit hfront hframe hstops =>
        have hcompose := (compose_eq_error_iff hstops.ne_nil).mpr ⟨s, i, inPredicate, hstops⟩
        have hm := composeMethod_eq_error.mpr (Or.inr ⟨frame, hframe, hcompose⟩)
        rw [mapM_eq_error.mpr ⟨front, m, back, hsplit, hfront, hm⟩]
        rfl
      | beforeLoad hmethods hstops =>
        obtain ⟨methods, hall⟩ := mapM_isOk.mpr hmethods
        rw [hall, ok_bind, composeBeforeLoad_eq_error.mpr ⟨s, i, inPredicate, hstops⟩]
        rfl

theorem unreserved_of_made (hmade : page.Made) {frame : Frame} (hframe : frame.page = page) :
    frame.Unreserved := by
  have hfree : ∀ name, name = "self" ∨ name = "document" → page.find? name = none := by
    intro name hname
    rw [← Option.not_isSome_iff_eq_none, Page.isSome_find?_iff]
    intro hmem
    obtain ⟨element, helement, rfl⟩ := List.mem_map.mp hmem
    exact hname.elim (hmade.unreserved element helement).1 (hmade.unreserved element helement).2
  subst hframe
  exact ⟨hfree "self" (Or.inl rfl), hfree "document" (Or.inr rfl)⟩

/-- **What is reported where the translation of a document without findings stops.** -/
theorem StopsAt.reports {method : String} {s : Statement} {i : Nat} {inPredicate : Bool} (hkept : d.Kept)
    (hreviewed : d.Reviewed) (hpage : pageOf d name package = .ok page)
    (h : StopsAt page d e method s i inPredicate) :
    ∃ frame : Frame, frame.page = page ∧ frame.method = method ∧ frame.Reports s i inPredicate e := by
  have hmade := pageOf_made hkept hpage
  have hnames := pageOf_names hpage
  cases h with
  | @method front back m frame _ _ _ hsplit hfront hframe hstops =>
    have hm : m ∈ d.methods := by simp [hsplit]
    unfold frameOf at hframe
    split at hframe
    · obtain rfl := Except.ok.inj hframe
      refine ⟨_, rfl, rfl, hstops.reports (unreserved_of_made hmade rfl) (hkept.methods m hm) ?_⟩
      intro s hs
      exact Frame.admits_of_reviewed hnames (by simp) (hkept.methods m hm s hs)
        (hreviewed.statements s (Or.inr ⟨m, hm, hs⟩)) fun _ _ _ _ _ => id
    · exact absurd hframe (by simp)
  | beforeLoad hmethods hstops =>
    refine ⟨_, rfl, rfl, hstops.reports (unreserved_of_made hmade rfl) hkept.beforeLoad ?_⟩
    intro s hs
    exact Frame.admits_of_reviewed hnames (by simp [beforeLoadFrame]) (hkept.beforeLoad s hs)
      (hreviewed.statements s (Or.inl hs)) fun _ _ _ _ _ => id

/-- **Errors are located**, up to those that come from the page. A document that is loaded without findings,
and whose page is made, is refused for the type of a method, or where composing stops. The message then starts
with the page object, the method and the index of the statement, unless the statement declares a type that is
not one on the page or is nothing but `self` or `document`; of those it says no place. -/
theorem ofSource_located {source : Source} {error : CompileError} (hload : Document.load source = .ok d)
    (hreview : d.findings = []) (hpage : pageOf d name package = .ok page)
    (h : ofSource source name package = .error error) :
    ∃ e, error = ⟨qualified package name, .compose e⟩ ∧
      (RefusesType page d e ∨ ∃ method s i inPredicate, StopsAt page d e method s i inPredicate) ∧
      ∀ method s i inPredicate, StopsAt page d e method s i inPredicate →
        (¬ s.Unplaced page → error.Locates method i inPredicate) ∧
        (s.Unplaced page → ∀ method' i' inPredicate', ¬ error.Locates method' i' inPredicate') := by
  have hkept := Document.load_kept hload
  have hreviewed := Document.reviewed_of_findings hreview
  obtain ⟨fullName, cause⟩ := error
  obtain ⟨hname, ⟨e, hrefused, -⟩ | ⟨page', e, hpage', hall, hcause⟩⟩ :=
    (ofSource_eq_error hload hreview).mp h
  · exact absurd (hpage.symm.trans hrefused) (by simp)
  · obtain rfl : page = page' := Except.ok.inj (hpage.symm.trans hpage')
    obtain rfl : cause = .compose e := hcause
    obtain rfl : fullName = qualified package name := hname
    have hne : ∀ m ∈ d.methods, m.compose ≠ [] := fun m hm =>
      ((Document.load_keepsRules hload).methods m hm).compose
    refine ⟨e, rfl, (composeAll_eq_error hne).mp hall, ?_⟩
    intro method s i inPredicate hstops
    obtain ⟨frame, rfl, rfl, hreports⟩ := hstops.reports hkept hreviewed hpage
    exact hreports.locates

/-- A page object whose method `open` waits for its root to fly. -/
def flyingSource : Source :=
  .value (.object [("methods", .list [.object [("name", .text "open"), ("compose", .list
    [.object [("element", .text "root"), ("apply", .text "getText")],
     .object [("apply", .text "waitFor"), ("predicate", .list
      [.object [("element", .text "root"), ("apply", .text "isVisible")],
       .object [("element", .text "root"), ("apply", .text "fly")]])]])]])])

/-- The method of `flyingSource`. -/
def flyingMethod : Method :=
  { name := "open",
    compose := [callRoot "getText",
      { action := some "waitFor", predicate := some [callRoot "isVisible", callRoot "fly"] }] }

/-- What is wrong with `flyingSource`: its root does not fly. -/
def noFlight : ComposeError := .statement "open" 1 true (.action (.unknownAction "fly" "root" []))

theorem flyingSource_located : ∃ d page error, Document.load flyingSource = .ok d ∧ d.findings = [] ∧
    pageOf d "Page" "my.app" = .ok page ∧ ofSource flyingSource "Page" "my.app" = .error error ∧
    StopsAt page d noFlight "open" (callRoot "fly") 1 true ∧ error.Locates "open" 1 true := by
  have hload : Document.load flyingSource = .ok { methods := [flyingMethod] } := rfl
  obtain ⟨page, hpage, hstops⟩ : ∃ page, pageOf { methods := [flyingMethod] } "Page" "my.app" = .ok page ∧
      StopsAt page { methods := [flyingMethod] } noFlight flyingMethod.name (callRoot "fly") 1 true := by
    refine ⟨_, rfl, .method (List.nil_append _).symm (List.forall_mem_nil _) rfl ?_⟩
    exact .inside (.later (Frame.stepAt_eq_ok.mp rfl) .here) rfl rfl
      (.later (Frame.predicateStepAt_eq_ok.mp rfl) .here) rfl
  have herror : ofSource flyingSource "Page" "my.app" = .error ⟨"my.app.Page", .compose noFlight⟩ := rfl
  have hreview : ({ methods := [flyingMethod] } : Document).findings = [] := by decide
  obtain ⟨e, he, -, hlocated⟩ := ofSource_located hload hreview hpage herror
  obtain rfl : noFlight = e := DocumentError.compose.inj (CompileError.mk.inj he).2
  refine ⟨_, page, _, hload, hreview, hpage, herror, hstops, (hlocated _ _ _ _ hstops).1 ?_⟩
  rintro (⟨t, ht⟩ | ⟨haction, -⟩)
  · cases ht
  · cases haction

/-- A page object whose method `read` declares a type that there is not. -/
def textSource : Source :=
  .value (.object [("methods", .list [.object [("name", .text "read"), ("compose", .list
    [.object [("element", .text "root"), ("apply", .text "getText"), ("returnType", .text "text")]])]])])

/-- Its statement. -/
def readText : Statement := { callRoot "getText" with returnType := some "text" }

/-- The statement of `itselfSource`. -/
def selfAlone : Statement := { element := some "self" }

/-- What is wrong with `textSource`, and what with `itselfSource`. -/
def noText : ComposeError := .type (.unknown "text")

@[inherit_doc noText]
def noSelf : ComposeError := .page (.unknownElement "self" "Page" ["root"])

/-- A page object of one method of one statement, no wait, stops at that if it is refused. -/
theorem stopsAt_only {method : String} {s : Statement} (hwait : s.isWait = false)
    (hrefused : Frame.stepAt { page, method } 1 0 {} s [] = .error e) :
    StopsAt page { methods := [{ name := method, compose := [s] }] } e method s 0 false :=
  @StopsAt.method _ _ _ [] [] { name := method, compose := [s] } _ _ _ _ rfl (List.forall_mem_nil _) rfl
    (.own .here (fun _ _ h => absurd h (by simp [hwait])) hrefused)

/-- **The place is missing** from the message of a statement that declares a type that there is not, and from
that of one which is nothing but `self`. -/
theorem textSource_not_located :
    (∃ d page error, Document.load textSource = .ok d ∧ d.findings = [] ∧
      pageOf d "Page" "" = .ok page ∧ ofSource textSource "Page" "" = .error error ∧
      StopsAt page d noText "read" readText 0 false ∧
      error.message = "page object 'Page': Unknown type 'text'" ∧ ¬ error.Locates "read" 0 false) ∧
    ∃ d page error, Document.load itselfSource = .ok d ∧ d.findings = [] ∧
      pageOf d "Page" "" = .ok page ∧ ofSource itselfSource "Page" "" = .error error ∧
      StopsAt page d noSelf "itself" selfAlone 0 false ∧ ¬ error.Locates "itself" 0 false := by
  constructor
  · refine ⟨_, _, ⟨"Page", .compose noText⟩, rfl, by decide, rfl, rfl, stopsAt_only rfl rfl, rfl, ?_⟩
    exact CompileError.not_locates (TypeError.message_head? _)
  · refine ⟨_, _, ⟨"Page", .compose noSelf⟩, rfl, by decide, rfl, rfl, stopsAt_only rfl rfl, ?_⟩
    exact CompileError.not_locates PageError.unknownElement_head?

end PageClass

end PageObjects
