import PageObjects.Proofs.Batch.Outputs

/-!
# Documents that share an output

Where the two files of a document stand is said by the directory of its package and by its name. So
two documents share an output exactly if they agree on both, or if the one leads by its directory and
its name to where the class of the other stands.

* `Config.Meet`: documents that lead to one file, by their names and directories.
* `Config.share_iff_meet`: they are those that share an output.
-/

namespace PageObjects

theorem javaFile_inj {type type' : String} : javaFile type = javaFile type' ↔ type = type' := by
  rw [javaFile, javaFile, String.append_left_inj]

namespace Config

variable {c : Config} {tree : FileTree} {p q output : Path}

/-- The directory of the package of a document. -/
def directoryOf (c : Config) (p : Path) : Path :=
  c.outputDir.joinTexts (ResultType.parts '.' (c.identity p).2)

/-- Where the interface of a document stands. -/
def interfacePath (c : Config) (p : Path) : Path :=
  (c.directoryOf p).child (javaFile (c.identity p).1)

/-- Where the class of a document stands. -/
def classPath (c : Config) (p : Path) : Path :=
  ((c.directoryOf p).child "impl").child (javaFile ((c.identity p).1 ++ "Impl"))

/-- The name and the directory of `p` are those of the class of `q`. -/
def IsClassOf (c : Config) (p q : Path) : Prop :=
  c.directoryOf p = (c.directoryOf q).child "impl" ∧ (c.identity p).1 = (c.identity q).1 ++ "Impl"

/-- The documents lead to one file: they have one name and one directory, or one of them has those of
the class of the other. -/
def Meet (c : Config) (p q : Path) : Prop :=
  (c.directoryOf p = c.directoryOf q ∧ (c.identity p).1 = (c.identity q).1) ∨
    c.IsClassOf p q ∨ c.IsClassOf q p

instance : Decidable (c.Meet p q) := by
  unfold Meet IsClassOf
  infer_instance

/-- Documents that meet have one name, or one of them has that of the class of the other. -/
theorem Meet.names (h : c.Meet p q) : (c.identity p).1 = (c.identity q).1 ∨
    (c.identity p).1 = (c.identity q).1 ++ "Impl" ∨ (c.identity q).1 = (c.identity p).1 ++ "Impl" :=
  h.imp And.right (Or.imp And.right And.right)

theorem interfacePath_inj : c.interfacePath p = c.interfacePath q ↔
    c.directoryOf p = c.directoryOf q ∧ (c.identity p).1 = (c.identity q).1 := by
  rw [interfacePath, interfacePath, Path.child_inj, javaFile_inj]

theorem classPath_inj : c.classPath p = c.classPath q ↔
    c.directoryOf p = c.directoryOf q ∧ (c.identity p).1 = (c.identity q).1 := by
  rw [classPath, classPath, Path.child_inj, Path.child_inj, javaFile_inj, String.append_left_inj,
    and_iff_left rfl]

theorem interfacePath_eq_classPath : c.interfacePath p = c.classPath q ↔ c.IsClassOf p q := by
  rw [interfacePath, classPath, Path.child_inj, javaFile_inj, IsClassOf]

/-- The interface and the class of a document are two files. -/
theorem interfacePath_ne_classPath : c.interfacePath p ≠ c.classPath p := fun h =>
  Path.child_ne _ _ (interfacePath_eq_classPath.mp h).1.symm

/-- The files of a document, by its directory and its name. -/
theorem outputPaths_of_classOf {bytes : List UInt8} {pc : PageClass} (hp : c.LeadsTo p)
    (hclass : c.classOf p bytes = .ok pc) :
    outputPaths pc c.outputDir = (c.interfacePath p, c.classPath p) := by
  obtain ⟨hname, hpackage⟩ := PageClass.ofSource_named hclass
  rw [outputPaths_eq (hname ▸ (identity_plain hp).1), PageClass.implementationName, hname, hpackage]
  rfl

/-- The outputs of a document that is translated are its two files. -/
theorem outputOf_iff (hp : c.LeadsTo p) : c.OutputOf tree p output ↔
    (∃ other, c.OutputOf tree p other) ∧ (output = c.interfacePath p ∨ output = c.classPath p) := by
  constructor
  · intro h
    refine ⟨⟨output, h⟩, ?_⟩
    cases h with
    | interface _ hclass => exact .inl (by rw [outputPaths_of_classOf hp hclass])
    | implementation _ hclass => exact .inr (by rw [outputPaths_of_classOf hp hclass])
  · rintro ⟨⟨other, hother⟩, houtput⟩
    have hboth : c.OutputOf tree p (c.interfacePath p) ∧ c.OutputOf tree p (c.classPath p) := by
      cases hother with
      | interface hread hclass | implementation hread hclass =>
        have hfirst := OutputOf.interface hread hclass
        have hsecond := OutputOf.implementation hread hclass
        rw [outputPaths_of_classOf hp hclass] at hfirst hsecond
        exact ⟨hfirst, hsecond⟩
    rcases houtput with rfl | rfl
    · exact hboth.1
    · exact hboth.2

/-- **Documents that are translated share an output exactly if they meet.** -/
theorem share_iff_meet (hp : c.LeadsTo p) (hq : c.LeadsTo q)
    (hpout : ∃ output, c.OutputOf tree p output) (hqout : ∃ output, c.OutputOf tree q output) :
    (∃ output, c.OutputOf tree p output ∧ c.OutputOf tree q output) ↔ c.Meet p q := by
  have hshare : ∀ output, c.OutputOf tree p output ∧ c.OutputOf tree q output ↔
      (output = c.interfacePath p ∨ output = c.classPath p) ∧
        (output = c.interfacePath q ∨ output = c.classPath q) := fun output => by
    rw [outputOf_iff hp, outputOf_iff hq, and_iff_right hpout, and_iff_right hqout]
  rw [exists_congr hshare, Meet]
  constructor
  · rintro ⟨output, rfl | rfl, hsame | hsame⟩
    · exact .inl (interfacePath_inj.mp hsame)
    · exact .inr (.inl (interfacePath_eq_classPath.mp hsame))
    · exact .inr (.inr (interfacePath_eq_classPath.mp hsame.symm))
    · exact .inl (classPath_inj.mp hsame)
  · rintro (hsame | hclass | hclass)
    · exact ⟨_, .inl rfl, .inl (interfacePath_inj.mpr hsame)⟩
    · exact ⟨_, .inl rfl, .inr (interfacePath_eq_classPath.mpr hclass)⟩
    · exact ⟨_, .inr rfl, .inl (interfacePath_eq_classPath.mpr hclass).symm⟩

end Config
end PageObjects
