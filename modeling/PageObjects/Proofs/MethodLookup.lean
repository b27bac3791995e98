import PageObjects.Proofs.Java.Members
import PageObjects.Proofs.MemberNames

/-!
# Methods by name

A page class finds its methods by name, and looks up the name of the method that runs before loading apart from
the others. The review keeps that name from other methods only if there are statements that run before loading. In
a document without any a method may have it; it is generated, and it is not found.

* `PageClass.Hidden`: a method that is called like the one that runs before loading, where there is none.
* **`PageClass.ofSource_finds`**: every method that is not hidden is found by its name, and nothing else is.
* `PageClass.loadSource_hides`: a method that is hidden.
-/

namespace PageObjects

namespace PageClass

/-- The method has the name of the one that runs before loading, and there is none. -/
def Hidden (pc : PageClass) (m : ClassMethod) : Prop :=
  m.signature.name = beforeLoadName ∧ pc.beforeLoad = none

/-- The methods of the page class of a document, and which are found by name. -/
structure Finds (pc : PageClass) (d : Document) : Prop where
  /-- The methods have the names that the document gives them. -/
  methods : pc.methods.map (fun m => m.signature.name) = d.methods.map Method.name
  /-- One runs before loading if there are statements for it. -/
  beforeLoad : pc.beforeLoad.map (fun m => m.signature.name) = if d.beforeLoad.isEmpty then none else some "load"
  /-- What is found by a name is a method of this name that is not hidden. -/
  lookup : ∀ name m, pc.method? name = some m ↔ m ∈ pc.allMethods ∧ m.signature.name = name ∧ ¬ pc.Hidden m
  /-- The method that runs before loading is found. -/
  load : ∀ m, pc.beforeLoad = some m → pc.method? "load" = some m
  /-- Nothing is found by another name. -/
  other : ∀ name, name ∉ pc.allMethods.map (fun m => m.signature.name) → pc.method? name = none
  /-- All are found, unless the document calls a method like the one that runs before loading, and has none. -/
  all : (∀ m ∈ pc.allMethods, pc.method? m.signature.name = some m) ↔
    ("load" ∈ d.methods.map Method.name → d.beforeLoad ≠ [])

variable {source : Source} {name package : String} {pc : PageClass} {m : ClassMethod}

/-- **What is found by a name** is a method of this name that is not hidden. -/
theorem NamesMembers.method?_eq_some_iff (h : pc.NamesMembers) :
    pc.method? name = some m ↔ m ∈ pc.allMethods ∧ m.signature.name = name ∧ ¬ pc.Hidden m := by
  by_cases hname : name = beforeLoadName
  · subst hname
    rw [method?, beq_self_eq_true, if_pos rfl]
    constructor
    · intro hload
      refine ⟨List.mem_append_right _ (by simp [hload]), h.beforeLoad m hload, ?_⟩
      rintro ⟨-, hnone⟩
      exact absurd (hnone.symm.trans hload) (by simp)
    · rintro ⟨hm, hcalled, hshown⟩
      cases hload : pc.beforeLoad with
      | none => exact absurd ⟨hcalled, hload⟩ hshown
      | some first =>
        have hfirst : first ∈ pc.allMethods := List.mem_append_right _ (by simp [hload])
        have hsame : first.signature.name = m.signature.name := (h.beforeLoad first hload).trans hcalled.symm
        rw [List.inj_on_of_nodup_map h.methods hfirst hm hsame]
  · have hmethods : (pc.methods.map fun m => m.signature.name).Nodup :=
      h.methods.sublist ((List.sublist_append_left _ _).map _)
    have hmem : m.signature.name = name → (m ∈ pc.allMethods ↔ m ∈ pc.methods) := by
      rintro rfl
      rw [allMethods, List.mem_append, Option.mem_toList, or_iff_left]
      exact fun hload => hname (h.beforeLoad m hload)
    rw [method?, if_neg (by simpa using hname), find?_key_eq_some_iff hmethods]
    constructor
    · rintro ⟨hm, hcalled⟩
      exact ⟨(hmem hcalled).mpr hm, hcalled, fun hhidden => hname (hcalled.symm.trans hhidden.1)⟩
    · rintro ⟨hm, hcalled, -⟩
      exact ⟨(hmem hcalled).mp hm, hcalled⟩

/-- All methods are found by name if none is hidden. -/
theorem NamesMembers.all_found_iff (h : pc.NamesMembers) :
    (∀ m ∈ pc.allMethods, pc.method? m.signature.name = some m) ↔ ∀ m ∈ pc.allMethods, ¬ pc.Hidden m := by
  refine forall₂_congr fun m hm => ?_
  rw [h.method?_eq_some_iff, and_iff_right hm, and_iff_right rfl]

theorem NamesMembers.finds (h : pc.NamesMembers) {d : Document}
    (hmethods : pc.methods.map (fun m => m.signature.name) = d.methods.map Method.name)
    (hbeforeLoad : pc.beforeLoad.map (fun m => m.signature.name) =
      if d.beforeLoad.isEmpty then none else some "load") : pc.Finds d where
  methods := hmethods
  beforeLoad := hbeforeLoad
  lookup name m := h.method?_eq_some_iff
  load m hm := hm
  other name hother := by
    rw [Option.eq_none_iff_forall_ne_some]
    intro m hfound
    obtain ⟨hm, hcalled, -⟩ := h.method?_eq_some_iff.mp hfound
    exact hother (List.mem_map.mpr ⟨m, hm, hcalled⟩)
  all := by
    have hnone : pc.beforeLoad = none ↔ d.beforeLoad = [] := by
      rw [← Option.map_eq_none_iff, hbeforeLoad]
      simp
    rw [h.all_found_iff, ← hmethods]
    constructor
    · intro hshown hcalled hempty
      obtain ⟨m, hm, hname⟩ := List.mem_map.mp hcalled
      exact hshown m (List.mem_append_left _ hm) ⟨hname, hnone.mpr hempty⟩
    · rintro hreserved m hm ⟨hname, hload⟩
      -- nothing runs before loading, so the method is one of the others
      rw [allMethods, hload, Option.toList_none, List.append_nil] at hm
      exact hreserved (List.mem_map.mpr ⟨m, hm, hname⟩) (hnone.mp hload)

/-- **Methods are found by name.** A document that is compiled has its methods, and the one that runs before loading
if there are statements for it. Each is found by its name, and nothing is found by another name, but for a method
that is called like the one that runs before loading in a document without such statements: it is not found. -/
theorem ofSource_finds (h : ofSource source name package = .ok pc) :
    ∃ d, Document.load source = .ok d ∧ pc.Finds d := by
  have hnames := ofSource_namesMembers h
  obtain ⟨d, page, methods, beforeLoad, hload, -, -, hall, rfl⟩ := ofSource_eq_ok_iff.mp h
  obtain ⟨hmethods, hbeforeLoad⟩ := composeAll_names hall
  exact ⟨d, hload, hnames.finds hmethods hbeforeLoad⟩

/-- A page object that is looked at before it counts as loaded, and again by a method. -/
def watchedSource : Source :=
  .value (.object
    [("beforeLoad", .list [.object [("element", .text "root"), ("apply", .text "isPresent")]]),
    ("methods", .list [.object [("name", .text "look"), ("compose", .list
      [.object [("element", .text "root"), ("apply", .text "isPresent")]])]])])

theorem watchedSource_finds : ∃ pc d, ofSource watchedSource "Home" "my.app" = .ok pc ∧ pc.Finds d ∧
    pc.allMethods.map (fun m => m.signature.name) = ["look", "load"] ∧
    ∀ m ∈ pc.allMethods, pc.method? m.signature.name = some m := by
  have hok : (ofSource watchedSource "Home" "my.app").toOption.any (fun pc =>
      pc.allMethods.map (fun m => m.signature.name) == ["look", "load"] && pc.beforeLoad.isSome) = true := by decide
  obtain ⟨pc, hpc, htold⟩ := exists_eq_ok hok
  obtain ⟨hcalled, hload⟩ := Bool.and_eq_true_iff.mp htold
  obtain ⟨d, -, hfinds⟩ := ofSource_finds hpc
  refine ⟨pc, d, hpc, hfinds, eq_of_beq hcalled, fun m hm => (hfinds.lookup _ m).mpr ⟨hm, rfl, ?_⟩⟩
  rintro ⟨-, hnone⟩
  exact absurd hload (by simp [hnone])

/-- A page object with a method that is called like the one that runs before loading, and nothing that does. -/
def loadSource : Source :=
  .value (.object
    [("methods", .list [.object [("name", .text "load"), ("compose", .list
      [.object [("element", .text "root"), ("apply", .text "isPresent")]])]])])

/-- **A method that is not found**: it is generated, and the interface declares it, but nothing is found by its
name. -/
theorem loadSource_hides : ∃ pc m, ofSource loadSource "Home" "my.app" = .ok pc ∧ m ∈ pc.methods ∧
    m.signature.name = "load" ∧ m.signature.code ∈ Java.declared (Java.interfaceLines pc) ∧
    pc.method? m.signature.name = none := by
  have hok : (ofSource loadSource "Home" "my.app").toOption.any (fun pc =>
      pc.beforeLoad == none && pc.methods.any fun m => m.signature.name == "load" && m.isPublic) = true := by decide
  obtain ⟨pc, hpc, htold⟩ := exists_eq_ok hok
  simp only [Bool.and_eq_true, List.any_eq_true, beq_iff_eq] at htold
  obtain ⟨hnone, m, hm, hname, hpublic⟩ := htold
  refine ⟨pc, m, hpc, hm, hname, ?_, by rw [hname]; exact hnone⟩
  rw [Java.declared_interfaceLines, Java.interfaceMembers, List.map_append, List.map_append, List.map_map]
  exact List.mem_append_left _ (List.mem_append_left _
    (List.mem_map.mpr ⟨m, List.mem_filter.mpr ⟨hm, hpublic⟩, rfl⟩))

end PageClass

end PageObjects
