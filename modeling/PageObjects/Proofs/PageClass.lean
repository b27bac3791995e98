import PageObjects.PageClass.OfDocument
import PageObjects.Proofs.Page

/-!
# How a page class comes about

* `PageClass.ofSource_eq_ok_iff`, `PageClass.ofSource_eq_error`: the stages behind a page class, each with
  its outcome, and those at which a document without findings fails.
* `PageClass.ofSource_named`: a page class has the name and the package that were asked for.
* `PageClass.load_beyond`, `PageClass.ofSource_beyond`: the sources at which the reader meets a limit of
  its own.
-/

namespace PageObjects

theorem Page.declare_named {p p' : Page} {e : Element} (h : p.declare e = .ok p') :
    p'.name = p.name ∧ p'.package = p.package := by
  obtain ⟨element, -, hadd⟩ := Page.declare_eq_ok h
  obtain ⟨-, rfl⟩ := Page.add_eq_ok hadd
  exact ⟨rfl, rfl⟩

theorem Page.declareAll_named {p p' : Page} {elements : List Element}
    (h : p.declareAll elements = .ok p') : p'.name = p.name ∧ p'.package = p.package := by
  unfold Page.declareAll at h
  induction elements generalizing p with
  | nil =>
    obtain rfl := pure_eq_ok.mp h
    exact ⟨rfl, rfl⟩
  | cons e elements ih =>
    rw [List.foldlM_cons, bind_eq_ok] at h
    obtain ⟨next, hnext, h⟩ := h
    obtain ⟨hname, hpackage⟩ := Page.declare_named hnext
    obtain ⟨hname', hpackage'⟩ := ih h
    exact ⟨hname'.trans hname, hpackage'.trans hpackage⟩

namespace PageClass

theorem pageOf_named {d : Document} {name package : String} {page : Page}
    (h : pageOf d name package = .ok page) : page.name = name ∧ page.package = package := by
  simp only [pageOf, bind_eq_ok] at h
  obtain ⟨root, hroot, h⟩ := h
  obtain ⟨-, rfl⟩ := Page.add_eq_ok hroot
  exact Page.declareAll_named h

/-- The stages behind a page class: the document is loaded and has no findings, its page is made, and
all its methods are composed. -/
theorem ofSource_eq_ok_iff {source : Source} {name package : String} {pc : PageClass} :
    ofSource source name package = .ok pc ↔
      ∃ d page methods beforeLoad, Document.load source = .ok d ∧ d.findings = [] ∧
        pageOf d name package = .ok page ∧ composeAll page d = .ok (methods, beforeLoad) ∧
        pc = assemble page d methods beforeLoad := by
  constructor
  · intro h
    unfold ofSource at h
    split at h
    · rename_i d hload
      have hbuild := mapError_eq_ok.mp h
      unfold build at hbuild
      split at hbuild
      · rename_i hreview
        split at hbuild
        · exact absurd hbuild (by simp)
        · rename_i page hpage
          split at hbuild
          · exact absurd hbuild (by simp)
          · rename_i methods beforeLoad hall
            exact ⟨d, page, methods, beforeLoad, hload, hreview, hpage, hall,
              (Except.ok.inj hbuild).symm⟩
      · exact absurd hbuild (by simp)
    · exact absurd h (by simp)
  · rintro ⟨d, page, methods, beforeLoad, hload, hreview, hpage, hall, rfl⟩
    simp only [ofSource, hload, ofDocument, build, hreview, hpage, hall]
    rfl

theorem ofSource_eq_ok {source : Source} {name package : String} {pc : PageClass}
    (h : ofSource source name package = .ok pc) :
    ∃ d page methods beforeLoad, Document.load source = .ok d ∧
      pageOf d name package = .ok page ∧ composeAll page d = .ok (methods, beforeLoad) ∧
      pc = assemble page d methods beforeLoad := by
  obtain ⟨d, page, methods, beforeLoad, hload, -, hstages⟩ := ofSource_eq_ok_iff.mp h
  exact ⟨d, page, methods, beforeLoad, hload, hstages⟩

/-- The stages at which a document without findings fails: its page is not made, or a method is not
composed. -/
theorem ofSource_eq_error {source : Source} {d : Document} {name package : String}
    {e : CompileError} (hload : Document.load source = .ok d) (hreview : d.findings = []) :
    ofSource source name package = .error e ↔ e.fullName = qualified package name ∧
      ((∃ e', pageOf d name package = .error e' ∧ e.cause = .page e') ∨
        ∃ page e', pageOf d name package = .ok page ∧ composeAll page d = .error e' ∧
          e.cause = .compose e') := by
  have hpage : ∀ cause : DocumentError, (Except.error cause).mapError
      (fun cause => (⟨qualified package name, cause⟩ : CompileError)) =
        (.error e : Except CompileError PageClass) ↔
      e.fullName = qualified package name ∧ e.cause = cause := by
    intro cause
    constructor
    · intro h
      obtain rfl := Except.error.inj h
      exact ⟨rfl, rfl⟩
    · rintro ⟨hname, rfl⟩
      rw [← hname]
      rfl
  simp only [ofSource, hload, ofDocument, build, hreview]
  cases hpageOf : pageOf d name package with
  | error e' => simp [hpage]
  | ok page =>
    dsimp only
    cases hall : composeAll page d with
    | error e' => simp [hpage, hall]
    | ok composed =>
      have hok : ∀ pc : PageClass, (Except.ok pc : Except DocumentError PageClass).mapError
          (fun cause => (⟨qualified package name, cause⟩ : CompileError)) = .ok pc := fun _ => rfl
      simp [hok, hall]

/-- A page class has the name and the package that it was asked for under. -/
theorem ofSource_named {source : Source} {name package : String} {pc : PageClass}
    (h : ofSource source name package = .ok pc) : pc.name = name ∧ pc.package = package := by
  obtain ⟨d, page, methods, beforeLoad, -, hpage, -, rfl⟩ := ofSource_eq_ok h
  exact pageOf_named hpage

/-- Bytes are beyond a limit of the reader if they are a text in which it meets the limit before it meets
a fault. -/
theorem load_beyond {bytes : List UInt8} {levels : Nat} {limit : ReaderLimit} :
    Document.load (.bytes bytes levels) = .error (.beyond limit) ↔ ∃ text,
      decodeDocument bytes = .ok text ∧
        Json.Parser.document text.toList levels = .error (.beyond limit) := by
  rw [Document.load]
  cases decodeDocument bytes with
  | error e => simp
  | ok text =>
    simp only [Except.ok.injEq, exists_eq_left']
    cases Json.Parser.document text.toList levels with
    | ok v =>
      simp only [Document.ofParsed, Document.ofValue, reduceCtorEq, iff_false]
      cases Document.read v <;> simp
    | error e => cases e <;> simp [Document.ofParsed]

/-- Neither the review nor the translation of a document meets a limit: only its reader does. -/
theorem ofSource_beyond {source : Source} {name package : String} {limit : ReaderLimit} :
    (∃ e, ofSource source name package = .error e ∧ e.cause.limit? = some limit) ↔
      Document.load source = .error (.beyond limit) := by
  constructor
  · rintro ⟨e, h, hcause⟩
    unfold ofSource at h
    split at h
    · rename_i d hload
      unfold ofDocument build at h
      split at h
      · split at h
        · obtain rfl := Except.error.inj h
          exact absurd hcause (by simp [DocumentError.limit?])
        · split at h
          · obtain rfl := Except.error.inj h
            exact absurd hcause (by simp [DocumentError.limit?])
          · exact absurd ((mapError_eq_ok.mpr rfl).symm.trans h) (by simp)
      · obtain rfl := Except.error.inj h
        exact absurd hcause (by simp [DocumentError.limit?])
    · rename_i e' hload
      obtain rfl := Except.error.inj h
      cases e' with
      | beyond limit' =>
        obtain rfl := Option.some.inj hcause
        exact hload
      | _ => exact absurd hcause (by simp [DocumentError.limit?])
  · intro h
    exact ⟨_, by rw [ofSource, h], rfl⟩

end PageClass
end PageObjects
