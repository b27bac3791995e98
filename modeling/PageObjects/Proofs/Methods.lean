import PageObjects.Proofs.Compose.Return
import PageObjects.Proofs.Document.Reading
import PageObjects.Proofs.PageClass

/-!
# Where methods come from

Every method of a page class is composed of statements of its document, on the page that is made of the
document's elements. What is proved of a composition under what a document guarantees so holds of the
methods of page classes.

* `PageClass.Composes`: a generated method, with the frame, the statements and the composition that it
  comes from.
* `PageClass.ofSource_composes`: every method of a page class has these.
* `PageClass.Composes.made`, `PageClass.Composes.frame_made`, `PageClass.Composes.kept`,
  `PageClass.Composes.elements`: what the document guarantees of them.
* `PageClass.Composes.of_all`: what can be computed of them for a given source.
-/

namespace PageObjects

/-! ## Pages of documents -/

theorem Page.Made.declareAll {p p' : Page} {elements : List Element} (hmade : p.Made)
    (hchecked : ∀ e ∈ elements, e.check = .ok e) (h : p.declareAll elements = .ok p') : p'.Made := by
  unfold Page.declareAll at h
  induction elements generalizing p with
  | nil =>
    obtain rfl := pure_eq_ok.mp h
    exact hmade
  | cons e elements ih =>
    rw [List.forall_mem_cons] at hchecked
    rw [List.foldlM_cons, bind_eq_ok] at h
    obtain ⟨next, hnext, h⟩ := h
    exact ih (.declare hmade hchecked.1 hnext) hchecked.2 h

/-- No element of a made page has a name that stands for the page object or for the document. -/
theorem Page.Made.unreserved {p : Page} (h : p.Made) :
    ∀ element ∈ p.elements, element.name ≠ "self" ∧ element.name ≠ "document" := by
  refine h.forall_mem (fun _ _ => ?_) fun e element hchecked hdeclaration => ?_
  · exact ⟨by simp [PageElement.root, PageElement.rootName],
      by simp [PageElement.root, PageElement.rootName]⟩
  · have hname := PageElement.ofDeclaration_named_as hdeclaration
    have hfree := Element.not_reserved hchecked
    rw [← hname] at hfree
    refine ⟨?_, ?_⟩
    · intro hself
      exact hfree (by simp [reservedElements, hself])
    · intro hdocument
      exact hfree (by simp [reservedElements, hdocument])

theorem Page.declareAll_prefix {p p' : Page} {elements : List Element}
    (h : p.declareAll elements = .ok p') : p.elements <+: p'.elements := by
  unfold Page.declareAll at h
  induction elements generalizing p with
  | nil =>
    obtain rfl := pure_eq_ok.mp h
    exact List.prefix_refl _
  | cons e elements ih =>
    rw [List.foldlM_cons, bind_eq_ok] at h
    obtain ⟨next, hnext, h⟩ := h
    obtain ⟨element, -, hadd⟩ := Page.declare_eq_ok hnext
    obtain ⟨-, rfl⟩ := Page.add_eq_ok hadd
    exact (List.prefix_append _ _).trans (ih h)

/-- A frame as methods of documents have it: a made page, and a type that was resolved in it. -/
structure Frame.Made (frame : Frame) : Prop where
  page : frame.page.Made
  methodReturn : ∃ keyword? all, frame.page.resolve keyword? all = .ok frame.methodReturn

namespace PageClass

/-- The page of a document whose elements keep their rules is made. -/
theorem pageOf_made {d : Document} {name package : String} {page : Page} (hkept : d.Kept)
    (h : pageOf d name package = .ok page) : page.Made := by
  simp only [pageOf, bind_eq_ok] at h
  obtain ⟨root, hroot, h⟩ := h
  exact (Page.Made.root (.empty name package) hroot).declareAll hkept.elements h

/-- The element of the name of the root is the root. -/
theorem root_of_find? {d : Document} {name package : String} {page : Page} {element : PageElement}
    (h : pageOf d name package = .ok page) (hfind : page.find? "root" = some element) :
    element = .root d.interfaces d.exposeRootElement := by
  simp only [pageOf, bind_eq_ok] at h
  obtain ⟨rooted, hroot, h⟩ := h
  obtain ⟨-, rfl⟩ := Page.add_eq_ok hroot
  obtain ⟨rest, hrest⟩ := Page.declareAll_prefix h
  rw [Page.find?, ← hrest] at hfind
  exact (Option.some.inj hfind).symm

/-! ## Methods -/

/-- A generated method, with the frame, the statements and the composition that it comes from. -/
inductive Composes (source : Source) (name package : String) :
    ClassMethod → Frame → List Statement → Composition → Prop
  | method {d : Document} {page : Page} {m : Method} {frame : Frame} {c : Composition}
      (hload : Document.load source = .ok d) (hpage : pageOf d name package = .ok page)
      (hm : m ∈ d.methods) (hframe : frameOf page m = .ok frame)
      (hcompose : compose frame m.compose = .ok c) :
      Composes source name package (methodOf m.name m.description true c) frame m.compose c
  | beforeLoad {d : Document} {page : Page} {c : Composition}
      (hload : Document.load source = .ok d) (hpage : pageOf d name package = .ok page)
      (hcompose : compose (beforeLoadFrame page) d.beforeLoad = .ok c) :
      Composes source name package (methodOf beforeLoadName none false c) (beforeLoadFrame page)
        d.beforeLoad c

variable {source : Source} {name package : String} {pc : PageClass} {m : ClassMethod}
  {frame : Frame} {ss : List Statement} {c : Composition}

/-- Every method of a page class has a composition that it comes from. -/
theorem ofSource_composes (h : ofSource source name package = .ok pc) :
    ∀ m ∈ pc.allMethods, ∃ frame ss c, Composes source name package m frame ss c := by
  obtain ⟨d, page, methods, beforeLoad, hload, hpage, hall, rfl⟩ := ofSource_eq_ok h
  simp only [composeAll, bind_eq_ok] at hall
  obtain ⟨methods', hmethods, beforeLoad', hbefore, hall⟩ := hall
  obtain ⟨rfl, rfl⟩ := by simpa [pure_eq_ok] using hall
  intro m hm
  rcases List.mem_append.mp hm with hmethod | hbeforeLoad
  · obtain ⟨m', hm', hcomposed⟩ := exists_of_mem_mapM hmethods m hmethod
    simp only [composeMethod, bind_eq_ok] at hcomposed
    obtain ⟨frame, hframe, c, hcompose, hcomposed⟩ := hcomposed
    obtain rfl := pure_eq_ok.mp hcomposed
    exact ⟨_, _, c, .method hload hpage hm' hframe hcompose⟩
  · unfold composeBeforeLoad at hbefore
    split at hbefore
    · obtain rfl := Except.ok.inj hbefore
      exact absurd hbeforeLoad (by simp [assemble])
    · obtain ⟨c, hcompose, rfl⟩ := map_eq_ok.mp hbefore
      obtain rfl := List.mem_singleton.mp hbeforeLoad
      exact ⟨_, _, c, .beforeLoad hload hpage hcompose⟩

/-- What a generated method is, whether it runs before loading or not: it is composed on the page of its
document, and its head has the type that it declares. -/
theorem Composes.made (h : Composes source name package m frame ss c) :
    ∃ d, Document.load source = .ok d ∧ pageOf d name package = .ok frame.page ∧
      compose frame ss = .ok c ∧
      (∃ methodName description isPublic, m = methodOf methodName description isPublic c) ∧
      (frame.methodReturn = .unset ∨ m.signature.returnType = frame.methodReturn) := by
  cases h with
  | beforeLoad hload hpage hcompose =>
    exact ⟨_, hload, hpage, hcompose, ⟨_, _, _, rfl⟩, Or.inl rfl⟩
  | @method d page m frame c hload hpage hmem hframe hcompose =>
    unfold frameOf at hframe
    split at hframe
    · rename_i methodReturn hreturn
      obtain rfl := Except.ok.inj hframe
      refine ⟨_, hload, hpage, hcompose, ⟨_, _, _, rfl⟩, ?_⟩
      obtain ⟨-, b, -, -, htype, -⟩ := compose_threaded hcompose
      simp only [Frame.returnType, Bool.false_eq_true, if_false] at htype
      split at htype
      · rename_i hunset
        cases methodReturn with
        | unset => exact Or.inl rfl
        | _ => exact absurd hunset (by simp [ResultType.isUnset])
      · split at htype
        · exact Or.inr (Except.ok.inj htype).symm
        · exact absurd htype (by simp)
    · exact absurd hframe (by simp)

/-- The methods of documents have made frames. -/
theorem frameOf_made {page : Page} {m : Method} {frame : Frame} (hpage : page.Made)
    (h : frameOf page m = .ok frame) : frame.Made := by
  unfold frameOf at h
  split at h
  · rename_i methodReturn hreturn
    obtain rfl := Except.ok.inj h
    exact ⟨hpage, m.returnType, m.returnAll, hreturn⟩
  · exact absurd h (by simp)

/-- So have the statements that run before loading. -/
theorem beforeLoadFrame_made {page : Page} (hpage : page.Made) :
    (beforeLoadFrame page).Made :=
  ⟨hpage, none, false, rfl⟩

/-- The frame of a generated method is made. -/
theorem Composes.frame_made (h : Composes source name package m frame ss c) : frame.Made := by
  cases h with
  | method hload hpage hm hframe hcompose =>
    exact frameOf_made (pageOf_made (Document.load_kept hload) hpage) hframe
  | beforeLoad hload hpage hcompose =>
    exact beforeLoadFrame_made (pageOf_made (Document.load_kept hload) hpage)

/-- The statements of a generated method keep their rules. -/
theorem Composes.kept (h : Composes source name package m frame ss c) : ∀ s ∈ ss, s.Kept := by
  cases h with
  | method hload hpage hm hframe hcompose => exact (Document.load_kept hload).methods _ hm
  | beforeLoad hload hpage hcompose => exact (Document.load_kept hload).beforeLoad

/-- The getters of a page class are those of the elements of the page on which its methods are
composed. -/
theorem Composes.elements (hpc : ofSource source name package = .ok pc)
    (h : Composes source name package m frame ss c) :
    pc.elements = frame.page.elements.map Getter.ofElement := by
  obtain ⟨d, page, methods, beforeLoad, hload, hpage, -, rfl⟩ := ofSource_eq_ok hpc
  obtain ⟨d', hload', hpage', -⟩ := h.made
  obtain rfl : d = d' := Except.ok.inj (hload.symm.trans hload')
  obtain rfl : page = frame.page := Except.ok.inj (hpage.symm.trans hpage')
  rfl

/-- Every composition that a source comes to passes a test. -/
def composedAll (p : Composition → Bool) (source : Source) (name package : String) : Bool :=
  (Document.load source).toOption.all fun d => (pageOf d name package).toOption.all fun page =>
    (d.methods.all fun m => (frameOf page m).toOption.all fun frame =>
      (compose frame m.compose).toOption.all p) &&
    (compose (beforeLoadFrame page) d.beforeLoad).toOption.all p

/-- A test that every composition of a source passes, the composition of each generated method passes. -/
theorem Composes.of_all {p : Composition → Bool} (hall : composedAll p source name package = true)
    (h : Composes source name package m frame ss c) : p c = true := by
  unfold composedAll at hall
  cases h with
  | method hload hpage hm hframe hcompose =>
    simp only [hload, hpage, Except.toOption, Option.all_some, Bool.and_eq_true] at hall
    have hmethod := List.all_eq_true.mp hall.1 _ hm
    simpa only [hframe, hcompose, Option.all_some] using hmethod
  | beforeLoad hload hpage hcompose =>
    simp only [hload, hpage, hcompose, Except.toOption, Option.all_some, Bool.and_eq_true] at hall
    exact hall.2

end PageClass

end PageObjects
