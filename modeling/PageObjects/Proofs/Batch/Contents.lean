import PageObjects.Proofs.Batch.Isolation

/-!
# What compiling a document leaves in the files

Making directories changes no file, and writing a file changes that file alone, from its opening on. So a
document that is compiled changes its interface and its class, and one that is not compiled changes
nothing unless a file was opened for it. A file that was opened is emptied, and holds as much of its text
as the machine lets be written; and the interface, which is written first, stays when the class cannot be
written after it. The files are those of the Runner (specification, 6), and failures that are kept in its
results those of section 7.

* `admits_class_iff`: what can be in the way of a class whose interface can be written.
* `Config.Leaves`, `Config.Leftover`, **`Config.compileFile_leaves`**: what a document leaves in the files,
  whatever becomes of it.
* `Config.blockedTree_torn`: a document that is not compiled and leaves its interface.
-/

namespace PageObjects

open FileTree

/-! ## What can be in the way -/

section WriteClass

variable {tree : FileTree} {pc : PageClass} {directory : Path}

/-- The way of the class leads on from the way of the interface to the directory `impl`, and the class
stands in it. -/
theorem way_classPath (directory : Path) (hname : '/' ∉ pc.name.toList) :
    (outputPaths pc directory).2.way =
        (outputPaths pc directory).1.way ++ [(outputPaths pc directory).2.parent.resolved] ∧
      (outputPaths pc directory).2.resolved ≠ (outputPaths pc directory).2.parent.resolved := by
  rw [Config.outputPaths_eq hname]
  dsimp only
  rw [Path.parent_child, Path.way_child, Path.way_child, Path.stops, Path.way_child]
  refine ⟨rfl, ?_⟩
  rw [Path.resolved_child, Path.step_of_ne _ (javaFile_ne_up _)]
  exact Path.child_ne _ _

/-- **What can be in the way of a class whose interface can be written**: a path that cannot be used, a
file where its directory is to stand, a directory where it is to stand itself, or a way that leads over
its own place. -/
theorem admits_class_iff (hname : '/' ∉ pc.name.toList)
    (hinterface : tree.Admits (outputPaths pc directory).1) :
    tree.Admits (outputPaths pc directory).2 ↔ (outputPaths pc directory).2.Usable ∧
      ¬ tree.HasFile (outputPaths pc directory).2.parent.resolved ∧
      tree.at? (outputPaths pc directory).2.resolved ≠ some .directory ∧
      (outputPaths pc directory).2.resolved ∉ (outputPaths pc directory).1.way := by
  obtain ⟨hway, hne⟩ := way_classPath directory hname
  constructor
  · intro h
    have hclear := h.clear
    have hapart := h.apart
    rw [hway] at hclear hapart
    exact ⟨h.usable, hclear _ (by simp), h.vacant, fun hmem => hapart (List.mem_append_left _ hmem)⟩
  · rintro ⟨husable, hfile, hvacant, hapart⟩
    refine ⟨husable, ?_, ?_, hvacant⟩
    · intro q hq
      rw [hway, List.mem_append, List.mem_singleton] at hq
      rcases hq with hq | rfl
      · exact hinterface.clear q hq
      · exact hfile
    · rw [hway, List.mem_append, List.mem_singleton, not_or]
      exact ⟨hapart, hne⟩

end WriteClass

namespace Config

variable {c : Config} {tree grown : FileTree} {p : Path} {r : BatchResult} {pc pc' : PageClass}

/-! ## Documents -/

/-- The document in the tree is translated to the page class. -/
def Translates (c : Config) (tree : FileTree) (p : Path) (pc : PageClass) : Prop :=
  ∃ bytes, c.read tree p = .ok bytes ∧ c.classOf p bytes = .ok pc

/-- The file is opened for the document, once its turn to be written has come. -/
def MayOpen (c : Config) (tree : FileTree) (p output : Path) : Prop :=
  Opened (c.machine.refusal? p output) tree output

/-- The file is written for the document to its end, once its turn to be written has come. -/
def MayWrite (c : Config) (tree : FileTree) (p output : Path) : Prop :=
  Granted (c.machine.refusal? p output) tree output

/-- The interface of the document can be written and its class cannot be opened. -/
structure Tears (c : Config) (tree : FileTree) (p : Path) (pc : PageClass) : Prop where
  translates : c.Translates tree p pc
  granted : c.MayWrite tree p (outputPaths pc c.outputDir).1
  blocked : ¬ c.MayOpen tree p (outputPaths pc c.outputDir).2

theorem Translates.unique (h : c.Translates tree p pc) (h' : c.Translates tree p pc') : pc = pc' := by
  obtain ⟨bytes, hread, hclass⟩ := h
  obtain ⟨bytes', hread', hclass'⟩ := h'
  obtain rfl := Except.ok.inj (hread.symm.trans hread')
  exact Except.ok.inj (hclass.symm.trans hclass')

/-- The name of the page class of a document is one component of a path, as the document's is. -/
theorem Translates.slash_notMem (h : c.Translates tree p pc) (hp : '/' ∉ p.name.toList) :
    '/' ∉ pc.name.toList := by
  obtain ⟨bytes, -, hclass⟩ := h
  rw [(PageClass.ofSource_named hclass).1, identity]
  exact slash_notMem_pageObjectName hp

/-- **What can be in the way of the class alone**: its path is too long, a file is called as the directory
of classes, a directory is called as the class, the way to both leads over the place of the class, or the
machine refuses to open it. -/
theorem tears_iff (hp : '/' ∉ p.name.toList) : c.Tears tree p pc ↔
    c.Translates tree p pc ∧ c.MayWrite tree p (outputPaths pc c.outputDir).1 ∧
      (¬ (outputPaths pc c.outputDir).2.Usable ∨
        tree.HasFile (outputPaths pc c.outputDir).2.parent.resolved ∨
        tree.at? (outputPaths pc c.outputDir).2.resolved = some .directory ∨
        (outputPaths pc c.outputDir).2.resolved ∈ (outputPaths pc c.outputDir).1.way ∨
        ∃ refusal ∈ c.machine.refusal? p (outputPaths pc c.outputDir).2, ¬ refusal.isOpened) := by
  constructor
  · rintro ⟨htranslates, hgranted, hblocked⟩
    rw [MayOpen, Opened, admits_class_iff (htranslates.slash_notMem hp) hgranted.1] at hblocked
    refine ⟨htranslates, hgranted, ?_⟩
    by_contra hnone
    simp only [not_or, not_not, not_exists, not_and] at hnone
    obtain ⟨husable, hfile, hvacant, hapart, hopened⟩ := hnone
    exact hblocked ⟨⟨husable, hfile, hvacant, hapart⟩, hopened⟩
  · rintro ⟨htranslates, hgranted, hblocked⟩
    refine ⟨htranslates, hgranted, ?_⟩
    rw [MayOpen, Opened, admits_class_iff (htranslates.slash_notMem hp) hgranted.1]
    rintro ⟨⟨husable, hfile, hvacant, hapart⟩, hopened⟩
    rcases hblocked with hnot | hthere | hdirectory | hway | ⟨refusal, hrefusal, hnot⟩
    · exact hnot husable
    · exact hfile hthere
    · exact hvacant hdirectory
    · exact hapart hway
    · exact hnot (hopened refusal hrefusal)

/-- A document is not translated and changes nothing, or the class that it is translated to is written as
far as it is. -/
theorem Settles.writes {outcome : Except BatchError (List Path)} (h : c.Settles tree p grown outcome)
    (hp : '/' ∉ p.name.toList) :
    ((∀ pc, ¬ c.Translates tree p pc) ∧ grown = tree ∧ ∃ e, outcome = .error e) ∨
      ∃ pc, c.Translates tree p pc ∧
        ((∃ files, outcome = .ok files ∧
            Writes (c.machine.refusal? p) tree pc c.outputDir grown (.ok files)) ∨
          ∃ output e, outcome = .error (.write output e) ∧
            Writes (c.machine.refusal? p) tree pc c.outputDir grown (.error (.file output e))) := by
  have hwrites : ∀ {pc left} {written : Except WriteFault (List Path)}, c.Translates tree p pc →
      writeClass (c.machine.refusal? p) tree pc c.outputDir = (left, written) →
      Writes (c.machine.refusal? p) tree pc c.outputDir left written := by
    intro pc left written htranslates hwrite
    have hclass := writeClass_writes (c.machine.refusal? p) tree c.outputDir
      (htranslates.slash_notMem hp)
    rwa [hwrite] at hclass
  cases h with
  | unread hread =>
    refine .inl ⟨?_, rfl, _, rfl⟩
    rintro pc ⟨bytes, hread', -⟩
    exact absurd (hread.symm.trans hread') (by simp)
  | refused hread hclass hcause =>
    refine .inl ⟨?_, rfl, _, rfl⟩
    rintro pc ⟨bytes, hread', hclass'⟩
    obtain rfl := Except.ok.inj (hread.symm.trans hread')
    exact absurd (hclass.symm.trans hclass') (by simp)
  | unwritten hread hclass hnull hwrite =>
    exact .inr ⟨_, ⟨_, hread, hclass⟩, .inr ⟨_, _, rfl, hwrites ⟨_, hread, hclass⟩ hwrite⟩⟩
  | written hread hclass hnull hwrite =>
    exact .inr ⟨_, ⟨_, hread, hclass⟩, .inl ⟨_, rfl, hwrites ⟨_, hread, hclass⟩ hwrite⟩⟩

/-- What a document that is not compiled leaves in the files. -/
inductive Leftover (c : Config) (tree : FileTree) (p : Path) (grown : FileTree) : Prop where
  /-- No file was opened for it, and none has changed. -/
  | nothing
      (hnot : ∀ pc, c.Translates tree p pc → ¬ c.MayOpen tree p (outputPaths pc c.outputDir).1)
      (hbytes : grown.bytes? = tree.bytes?)
  /-- The machine has stopped the writing of the interface, which holds its first bytes. -/
  | interfaceBegun {pc : PageClass} {kept : Nat} {e : FileError} (htranslates : c.Translates tree p pc)
      (hadmits : tree.Admits (outputPaths pc c.outputDir).1)
      (hrefusal : c.machine.refusal? p (outputPaths pc c.outputDir).1 = some (.writing kept e))
      (hbytes : grown.bytes? = Function.update tree.bytes? (outputPaths pc c.outputDir).1.resolved
        (some ((Java.interfaceSource pc).toUTF8.toList.take kept)))
  /-- The interface is written, and the class was not opened. -/
  | interfaceAlone {pc : PageClass} (htears : c.Tears tree p pc)
      (hbytes : grown.bytes? = interfaceOver tree.bytes? pc c.outputDir)
  /-- The interface is written, and the machine has stopped the writing of the class, which holds its
  first bytes. -/
  | classBegun {pc : PageClass} {kept : Nat} {e : FileError} (htranslates : c.Translates tree p pc)
      (hgranted : c.MayWrite tree p (outputPaths pc c.outputDir).1)
      (hadmits : tree.Admits (outputPaths pc c.outputDir).2)
      (hrefusal : c.machine.refusal? p (outputPaths pc c.outputDir).2 = some (.writing kept e))
      (hbytes : grown.bytes? = Function.update (interfaceOver tree.bytes? pc c.outputDir)
        (outputPaths pc c.outputDir).2.resolved
        (some ((Java.classSource pc).toUTF8.toList.take kept)))

/-- What becomes of a document, and what it leaves in the files. -/
structure Leaves (c : Config) (tree : FileTree) (p : Path) (grown : FileTree) (r : BatchResult) :
    Prop where
  /-- A document is compiled exactly if it is translated and both its files can be written. -/
  compiled_iff : r.succeeded = true ↔ ∃ pc, c.Translates tree p pc ∧
    c.MayWrite tree p (outputPaths pc c.outputDir).1 ∧ c.MayWrite tree p (outputPaths pc c.outputDir).2
  /-- Then both files are listed and hold its sources, and no other file has changed. -/
  compiled : r.succeeded = true → ∃ pc, c.Translates tree p pc ∧
    r.files = [(outputPaths pc c.outputDir).1, (outputPaths pc c.outputDir).2] ∧
    grown.read (outputPaths pc c.outputDir).1 = .ok (Java.interfaceSource pc).toUTF8.toList ∧
    grown.read (outputPaths pc c.outputDir).2 = .ok (Java.classSource pc).toUTF8.toList ∧
    grown.bytes? = sourcesOver tree.bytes? pc c.outputDir
  /-- Else none is listed, and no file has changed but those that were opened for it. -/
  failed : r.succeeded = false → r.files = [] ∧ c.Leftover tree p grown

theorem Leaves.of_error {e : BatchError} {name package : String}
    (hnot : ∀ pc, c.Translates tree p pc → c.MayWrite tree p (outputPaths pc c.outputDir).1 →
      ¬ c.MayWrite tree p (outputPaths pc c.outputDir).2)
    (hleftover : c.Leftover tree p grown) : c.Leaves tree p grown ⟨p, name, package, .error e⟩ where
  compiled_iff := by
    refine ⟨fun h => absurd h Bool.false_ne_true, ?_⟩
    rintro ⟨pc, htranslates, hfirst, hsecond⟩
    exact absurd hsecond (hnot pc htranslates hfirst)
  compiled h := absurd h Bool.false_ne_true
  failed _ := ⟨rfl, hleftover⟩

/-- A fault of a file that was opened is that of the machine, which stopped its writing. -/
theorem writing_of_reported {refusal? : Option Refusal} {path output : Path} {e : FileError}
    (h : Refusal.reported refusal? path = .error (.file output e)) :
    ∃ kept, refusal? = some (.writing kept e) := by
  unfold Refusal.reported at h
  split at h
  · exact absurd h (by simp)
  · rename_i kept e'
    obtain ⟨-, rfl⟩ := WriteFault.file.inj (Except.error.inj h)
    exact ⟨kept, rfl⟩
  · exact absurd h (by simp)

/-- A file that can be written is one of which no fault is reported. -/
theorem not_mayWrite_of_reported {output : Path} {fault : WriteFault}
    (hfault : Refusal.reported (c.machine.refusal? p output) output = .error fault) :
    ¬ c.MayWrite tree p output := by
  intro hgranted
  have hnone := hgranted.opened.granted_iff.mp hgranted
  exact absurd (hfault.symm.trans hnone) (by simp)

theorem Settles.leaves {outcome : Except BatchError (List Path)} {name package : String}
    (h : c.Settles tree p grown outcome) (hp : '/' ∉ p.name.toList) :
    c.Leaves tree p grown ⟨p, name, package, outcome⟩ := by
  rcases h.writes hp with ⟨hnone, rfl, e, rfl⟩ | ⟨pc, htranslates, ⟨files, rfl, hwrites⟩ |
    ⟨output, e, rfl, hwrites⟩⟩
  · exact .of_error (fun pc htranslates => absurd htranslates (hnone pc))
      (.nothing (fun pc htranslates => absurd htranslates (hnone pc)) rfl)
  · cases hwrites with
    | both hfirst hsecond hbytes hinterface hclass =>
      exact ⟨⟨fun _ => ⟨pc, htranslates, hfirst, hsecond⟩, fun _ => rfl⟩,
        fun _ => ⟨pc, htranslates, rfl, hinterface, hclass, hbytes⟩,
        fun h => absurd h.symm Bool.false_ne_true⟩
  · have hunique : ∀ pc', c.Translates tree p pc' → pc' = pc := fun pc' h' => h'.unique htranslates
    cases hwrites with
    | neither hnot hbytes =>
      refine .of_error (fun pc' htranslates' hfirst => ?_) (.nothing (fun pc' htranslates' => ?_) hbytes)
      · obtain rfl := hunique pc' htranslates'
        exact absurd hfirst.opened hnot
      · obtain rfl := hunique pc' htranslates'
        exact hnot
    | interfaceBegun hopened hfault hbytes =>
      obtain ⟨kept, hrefusal⟩ := writing_of_reported hfault
      refine .of_error (fun pc' htranslates' hfirst => ?_) ?_
      · obtain rfl := hunique pc' htranslates'
        exact absurd hfirst (not_mayWrite_of_reported hfault)
      · rw [hrefusal] at hbytes
        exact .interfaceBegun htranslates hopened.1 hrefusal hbytes
    | interfaceAlone hgranted hnot hbytes =>
      refine .of_error (fun pc' htranslates' _ hsecond => ?_)
        (.interfaceAlone ⟨htranslates, hgranted, hnot⟩ hbytes)
      obtain rfl := hunique pc' htranslates'
      exact hnot hsecond.opened
    | classBegun hgranted hopened hfault hbytes =>
      obtain ⟨kept, hrefusal⟩ := writing_of_reported hfault
      refine .of_error (fun pc' htranslates' _ => ?_) ?_
      · obtain rfl := hunique pc' htranslates'
        exact not_mayWrite_of_reported hfault
      · rw [hrefusal] at hbytes
        exact .classBegun htranslates hgranted hopened.1 hrefusal hbytes

/-- **What a document leaves in the files.** A document that is compiled lists its interface and its class,
which hold its sources, and changes no other file. One that is not compiled lists none, and changes no
file but those that were opened for it: the interface holds its first bytes when the machine stopped its
writing, and all of its text when it was the class that could not be opened, or of which the first bytes
were written. A document has no result exactly if one of its errors ends the run. A class alone cannot be
opened where its path is too long, where a file stands in the place of its directory or a directory in its
own, where the way to both files leads over its place, or where the machine refuses it. The name of the
document is a component of a path, and so holds no slash. -/
theorem compileFile_leaves (hp : '/' ∉ p.name.toList) :
    (∀ grown r, c.compileFile tree p = .ok (grown, r) → c.Leaves tree p grown r) ∧
    (∀ e, c.compileFile tree p = .error e ↔ c.Escapes tree p e) ∧
    ∀ pc, c.Tears tree p pc ↔
      c.Translates tree p pc ∧ c.MayWrite tree p (outputPaths pc c.outputDir).1 ∧
        (¬ (outputPaths pc c.outputDir).2.Usable ∨
          tree.HasFile (outputPaths pc c.outputDir).2.parent.resolved ∨
          tree.at? (outputPaths pc c.outputDir).2.resolved = some .directory ∨
          (outputPaths pc c.outputDir).2.resolved ∈ (outputPaths pc c.outputDir).1.way ∨
          ∃ refusal ∈ c.machine.refusal? p (outputPaths pc c.outputDir).2, ¬ refusal.isOpened) := by
  refine ⟨fun grown r h => ?_, fun e => compileFile_eq_error, fun pc => tears_iff hp⟩
  obtain ⟨outcome, hsettles, rfl⟩ := compileFile_eq_ok.mp h
  exact hsettles.leaves hp

/-! ## A class that cannot be written -/

/-- An empty page object, and a file where the directory of its class is to stand. -/
def blockedTree : FileTree :=
  [(⟨"", ["in"]⟩, .directory), (firstPath, .file [0x7b, 0x7d]), (⟨"", ["out"]⟩, .directory),
    (⟨"", ["out", "pageobjects"]⟩, .directory),
    (⟨"", ["out", "pageobjects", "impl"]⟩, .file [0x66, 0x69, 0x6c, 0x65])]

/-- The place of the interface. -/
def blockedInterface : Path := ⟨"", ["out", "pageobjects", "A.java"]⟩

/-- A document that is not compiled and after which an interface stands has changed the files. -/
theorem changed_of_interface
    (hfacts : (c.compileFile tree firstPath).map (fun compiled =>
      (compiled.2.succeeded, (compiled.1.bytes? blockedInterface).isSome)) = .ok (false, true))
    (hnone : tree.bytes? blockedInterface = none) :
    ∃ grown r, c.compileFile tree firstPath = .ok (grown, r) ∧ r.succeeded = false ∧
      grown.bytes? ≠ tree.bytes? := by
  obtain ⟨⟨grown, r⟩, hcompiled, hfacts⟩ := map_eq_ok.mp hfacts
  obtain ⟨hfailed, hthere⟩ := Prod.mk.inj hfacts
  refine ⟨grown, r, hcompiled, hfailed, fun hsame => ?_⟩
  rw [hsame, hnone] at hthere
  exact absurd hthere Bool.false_ne_true

theorem blockedTree_compiled : ∃ grown r,
    twoRun.compileFile blockedTree firstPath = .ok (grown, r) ∧ r.succeeded = false ∧
      grown.bytes? ≠ blockedTree.bytes? :=
  changed_of_interface (by decide +kernel) (by decide)

/-- The run on a machine whose disk is full after the first bytes of every file. -/
def fullRun : Config :=
  { twoRun with
    machine := { refusal? := fun _ output => some (.writing 7 ⟨.other 28 "No space left on device", output⟩) } }

/-- The interface alone is written where a file stands in the place of the class's directory, both files
where none does, and the first bytes of the interface where the disk is full. -/
theorem blockedTree_leaves : '/' ∉ firstPath.name.toList ∧
    (∃ grown r, twoRun.compileFile blockedTree firstPath = .ok (grown, r) ∧
      twoRun.Leaves blockedTree firstPath grown r ∧ r.succeeded = false ∧
      grown.bytes? ≠ blockedTree.bytes?) ∧
    (∃ grown r, twoRun.compileFile (twoDocuments [0x7b, 0x7d]) firstPath = .ok (grown, r) ∧
      twoRun.Leaves (twoDocuments [0x7b, 0x7d]) firstPath grown r ∧ r.succeeded = true) ∧
    ∃ grown r, fullRun.compileFile (twoDocuments [0x7b, 0x7d]) firstPath = .ok (grown, r) ∧
      fullRun.Leaves (twoDocuments [0x7b, 0x7d]) firstPath grown r ∧ r.succeeded = false ∧
      grown.bytes? ≠ (twoDocuments [0x7b, 0x7d]).bytes? := by
  have hname : '/' ∉ firstPath.name.toList := by decide
  refine ⟨hname, ?_, ?_, ?_⟩
  · obtain ⟨grown, r, hcompiled, hfailed, hchanged⟩ := blockedTree_compiled
    exact ⟨grown, r, hcompiled, (compileFile_leaves hname).1 grown r hcompiled, hfailed, hchanged⟩
  · have hsucceeded : (twoRun.compileFile (twoDocuments [0x7b, 0x7d]) firstPath).map
        (fun compiled => compiled.2.succeeded) = .ok true := by
      decide +kernel
    obtain ⟨⟨grown, r⟩, hcompiled, hsucceeded⟩ := map_eq_ok.mp hsucceeded
    exact ⟨grown, r, hcompiled, (compileFile_leaves hname).1 grown r hcompiled, hsucceeded⟩
  · obtain ⟨grown, r, hcompiled, hfailed, hchanged⟩ :=
      @changed_of_interface fullRun (twoDocuments [0x7b, 0x7d]) (by decide +kernel) (by decide)
    exact ⟨grown, r, hcompiled, (compileFile_leaves hname).1 grown r hcompiled, hfailed, hchanged⟩

/-- **A document that is not compiled can leave a file**: here its interface. -/
theorem blockedTree_torn : ¬ ∀ grown r, twoRun.compileFile blockedTree firstPath = .ok (grown, r) →
    r.succeeded = false → grown.bytes? = blockedTree.bytes? ∧ r.files = [] := by
  intro hclaim
  obtain ⟨grown, r, hcompiled, hfailed, hchanged⟩ := blockedTree_compiled
  exact hchanged (hclaim grown r hcompiled hfailed).1

end Config
end PageObjects
