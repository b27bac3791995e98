import PageObjects.Batch.Run
import PageObjects.Proofs.Files.Growth
import PageObjects.Proofs.Files.Search
import PageObjects.Proofs.PageClass

/-!
# Where the outputs of documents stand

The files of all page classes of a run stand below one directory, `Config.base`: under it come the
directories of the document in lower case, split at points, and the file of an interface or a class.
A segment of a package holds no point, and the name of a file does. That keeps files and
directories apart, also those of different documents.

* `Config.OutputOf`: the files that a document leads to in a tree.
* `Config.OutputOf.below`: they stand below the base of the run.
* `Path.Below.separated`, `Path.Below.resolved_inj`: such files never stand on each other's way, and two of
  them stand at two places.
-/

namespace PageObjects

namespace Path

theorem startOf_of_notMem {cs : List Char} (h : '/' ∉ cs) : startOf cs = "" := by
  unfold startOf
  split <;> first | rfl | exact absurd (by simp) h

/-- A text without slashes is one component, unless it is empty. -/
theorem ofText_of_notMem {text : String} (h : '/' ∉ text.toList) (hpoint : text ≠ ".") :
    ofText text = { parts := [text].filter (!·.isEmpty) } := by
  have hfilter : [text].filter (fun part => !part.isEmpty && part != ".") =
      [text].filter (!·.isEmpty) :=
    List.filter_congr fun part hpart => by simp [List.mem_singleton.mp hpart, hpoint]
  rw [ofText, startOf_of_notMem h, ResultType.parts_of_notMem h, hfilter]

theorem join_ofText {text : String} (p : Path) (h : '/' ∉ text.toList) (hpoint : text ≠ ".") :
    p.join (ofText text) = { p with parts := p.parts ++ [text].filter (!·.isEmpty) } := by
  rw [ofText_of_notMem h hpoint]
  rfl

/-- Segments without slashes and points are components, unless they are empty. -/
theorem joinTexts_segments {segments : List String} (p : Path)
    (h : ∀ segment ∈ segments, '/' ∉ segment.toList ∧ '.' ∉ segment.toList) :
    p.joinTexts segments = { p with parts := p.parts ++ segments.filter (!·.isEmpty) } := by
  unfold joinTexts
  induction segments generalizing p with
  | nil => rw [List.foldl_nil, List.filter_nil, List.append_nil]
  | cons segment segments ih =>
    rw [List.forall_mem_cons] at h
    have hpoint : segment ≠ "." := by
      rintro rfl
      exact h.1.2 (by decide)
    rw [List.foldl_cons, join_ofText p h.1.1 hpoint, ih _ h.2, List.append_assoc,
      ← List.filter_append, List.singleton_append]

theorem child_inj {p q : Path} {name name' : String} :
    p.child name = q.child name' ↔ p = q ∧ name = name' := by
  constructor
  · intro h
    obtain ⟨hstart, hparts⟩ := Path.mk.inj h
    obtain ⟨hparts, hname⟩ := List.append_inj' hparts rfl
    exact ⟨by cases p; cases q; congr, List.cons.inj hname |>.1⟩
  · rintro ⟨rfl, rfl⟩
    rfl

/-- Nothing stands in itself. -/
theorem child_ne (p : Path) (name : String) : p.child name ≠ p := by
  intro h
  have hlength := congrArg (fun q : Path => q.parts.length) h
  simp [child] at hlength

theorem joinTexts_append (p : Path) (front back : List String) :
    p.joinTexts (front ++ back) = (p.joinTexts front).joinTexts back :=
  List.foldl_append

/-- Texts with points between them, split at points again, lead where the texts do, each split at its
points. -/
theorem joinTexts_parts_intercalate (p : Path) (texts : List String) :
    p.joinTexts (ResultType.parts '.' (".".intercalate texts)) =
      p.joinTexts (texts.flatMap (ResultType.parts '.')) := by
  by_cases h : texts = []
  · rw [h, String.intercalate_nil, ResultType.parts_of_notMem (by decide),
      joinTexts_segments p (by decide)]
    exact congrArg (fun parts => { p with parts }) (List.append_nil p.parts)
  · rw [show "." = String.singleton '.' from rfl, ResultType.parts_intercalate h]

end Path

/-! ## Names of files -/

/-- The name of the file of a type. -/
def javaFile (type : String) : String := type ++ ".java"

theorem point_mem_javaFile (type : String) : '.' ∈ (javaFile type).toList := by
  rw [javaFile, String.toList_append]
  exact List.mem_append_right _ (by decide)

theorem suffix_javaFile (type : String) : ".java".toList <:+ (javaFile type).toList := by
  rw [javaFile, String.toList_append]
  exact List.suffix_append _ _

theorem javaFile_ne {type text : String} (h : text.length < 5) : javaFile type ≠ text := by
  rintro rfl
  rw [javaFile, String.length_append] at h
  have hending : ".java".length = 5 := by decide
  omega

theorem javaFile_ne_up (type : String) : javaFile type ≠ ".." := javaFile_ne (by decide)

theorem join_javaFile {type : String} (p : Path) (h : '/' ∉ type.toList) :
    p.join (.ofText (type ++ ".java")) = p.child (javaFile type) := by
  have hslash : '/' ∉ (javaFile type).toList := by
    rw [javaFile, String.toList_append, List.mem_append, not_or]
    exact ⟨h, by decide⟩
  have hempty : (javaFile type).isEmpty = false := by
    rw [← Bool.not_eq_true, String.isEmpty_iff]
    exact javaFile_ne (by decide)
  rw [← javaFile, Path.join_ofText p hslash (javaFile_ne (by decide)), List.filter_cons, hempty]
  rfl

/-! ## Files below a base -/

namespace Path

/-- The paths of files of types below a base, with segments that hold no point on the way. -/
inductive Below (base : Path) : Path → Prop where
  | file (segments : List String) (type : String)
      (hplain : ∀ segment ∈ segments, '.' ∉ segment.toList) :
      Below base { base with parts := base.parts ++ (segments ++ [javaFile type]) }

namespace Below

variable {base p q : Path} {segments : List String}

theorem parts_ne_nil (h : Below base p) : p.parts ≠ [] := by
  cases h
  simp

theorem of_child {type : String} (hplain : ∀ segment ∈ segments, '.' ∉ segment.toList) :
    Below base (Path.child { base with parts := base.parts ++ segments } (javaFile type)) := by
  rw [Path.child, List.append_assoc]
  exact .file segments type hplain

theorem up_notMem {type : String} (hplain : ∀ segment ∈ segments, '.' ∉ segment.toList) :
    ".." ∉ segments ++ [javaFile type] := by
  intro hup
  rcases List.mem_append.mp hup with hsegment | hname
  · exact hplain _ hsegment (by decide)
  · exact javaFile_ne_up type (List.mem_singleton.mp hname).symm

/-- A file below a base stands below the place of the base. -/
theorem resolved_eq (h : Below base p) : ∃ segments type,
    p.resolved = { base.resolved with
      parts := base.resolved.parts ++ (segments ++ [javaFile type]) } := by
  obtain ⟨segments, type, hplain⟩ := h
  exact ⟨segments, type,
    by rw [resolved_append, foldl_step_of_notMem _ (up_notMem hplain)]⟩

/-- The way of a file below a base goes by the way of the base and then by segments. -/
theorem mem_way (h : Below base p) (hq : q ∈ p.way) : q ∈ base.way ∨
    ∃ front : List String, (∀ segment ∈ front, '.' ∉ segment.toList) ∧
      q = { base.resolved with parts := base.resolved.parts ++ front } := by
  obtain ⟨segments, type, hplain⟩ := h
  rw [way_append] at hq
  rcases List.mem_append.mp hq with hbase | hafter
  · exact .inl hbase
  · obtain ⟨front, back, hsplit, hback, rfl⟩ := mem_wayFrom (up_notMem hplain) hafter
    refine .inr ⟨front, fun segment hsegment => hplain segment ?_, rfl⟩
    have hfront : front <+: segments := by
      have hinit := congrArg List.dropLast hsplit
      rw [List.dropLast_concat, List.dropLast_append_of_ne_nil hback] at hinit
      rw [hinit]
      exact List.prefix_append _ _
    exact hfront.subset hsegment

/-- **Files below one base never stand on each other's way**: the directories that a path goes by
after the base have names without points. -/
theorem separated (base : Path) : FileTree.Separated (Below base) := by
  intro p q hp hq hway
  rcases hq.mem_way hway with hbase | ⟨front, hfront, hplace⟩
  · obtain ⟨segments, type, -⟩ := hp
    rw [way_append]
    exact List.mem_append_left _ hbase
  · obtain ⟨segments, type, hresolved⟩ := hp.resolved_eq
    have hsplit : segments ++ [javaFile type] = front :=
      List.append_cancel_left (congrArg Path.parts (hresolved.symm.trans hplace))
    exact absurd (point_mem_javaFile type) (hfront _ (hsplit ▸ by simp))

/-- A place whose name holds a point, is not that of a type's file, and is not on the way to the base,
is neither the place of a file below the base nor on its way. -/
theorem apart (h : Below base p) (hbase : q ∉ base.stops) (hpoint : '.' ∈ q.name.toList)
    (hname : ∀ type, q.name ≠ javaFile type) : q ≠ p.resolved ∧ q ∉ p.way := by
  constructor
  · rintro rfl
    obtain ⟨segments, type, hresolved⟩ := h.resolved_eq
    exact hname type (by rw [hresolved, ← List.append_assoc, name, List.getLastD_concat])
  · intro hway
    rcases h.mem_way hway with hway | ⟨front, hfront, rfl⟩
    · exact hbase (List.mem_append_left _ hway)
    · rcases List.eq_nil_or_concat front with rfl | ⟨init, last, rfl⟩
      · exact hbase (by simp [stops])
      · rw [List.concat_eq_append, name, ← List.append_assoc, List.getLastD_concat] at hpoint
        exact hfront last (by simp) hpoint

/-- **Files below a base stand at one place only if their paths are equal.** -/
theorem resolved_inj (hp : Below base p) (hq : Below base q)
    (h : p.resolved = q.resolved) : p = q := by
  obtain ⟨segments, type, hplain⟩ := hp
  obtain ⟨segments', type', hplain'⟩ := hq
  rw [resolved_append, resolved_append, foldl_step_of_notMem _ (up_notMem hplain),
    foldl_step_of_notMem _ (up_notMem hplain')] at h
  rw [List.append_cancel_left (congrArg Path.parts h)]

end Below
end Path

/-! ## Names of documents -/

theorem slash_notMem_documentStem {fileName : String} (h : '/' ∉ fileName.toList) :
    '/' ∉ (documentStem fileName).toList := by
  unfold documentStem
  intro hslash
  dsimp only at hslash
  split at hslash
  · rw [String.toList_ofList] at hslash
    exact h (List.mem_of_mem_take hslash)
  · exact h hslash

/-- A separator in the name of a page object stands in the stem of its document, and is none at which
the stem is split. -/
theorem of_separator_mem_pageObjectName {fileName : String} {separator : Char}
    (hseparator : separator ∈ Text.separators) (h : separator ∈ (pageObjectName fileName).toList) :
    (separator ≠ '-' ∧ separator ≠ '_') ∧ separator ∈ (documentStem fileName).toList := by
  rw [pageObjectName, String.toList_join] at h
  obtain ⟨word, hword, hmem⟩ := List.mem_flatMap.mp h
  obtain ⟨cs, hcs, rfl⟩ := List.mem_map.mp hword
  rw [Text.separator_mem_capitalize hseparator, String.toList_ofList] at hmem
  obtain ⟨hsplit, hstem⟩ := Text.of_mem_splitOnP (List.mem_filter.mp hcs).1 separator hmem
  exact ⟨by simpa using hsplit, hstem⟩

theorem slash_notMem_pageObjectName {fileName : String} (h : '/' ∉ fileName.toList) :
    '/' ∉ (pageObjectName fileName).toList := fun hslash =>
  slash_notMem_documentStem h (of_separator_mem_pageObjectName (by decide) hslash).2

namespace Config

variable {c : Config} {tree other : FileTree} {p q : Path}

/-- The directory below which the files of all page classes stand. -/
def base (c : Config) : Path :=
  c.outputDir.joinTexts (if c.basePackage.isEmpty then [] else ResultType.parts '.' c.basePackage)

/-- The path leads on from the source directory, and not only to it. -/
def LeadsTo (c : Config) (p : Path) : Prop := c.sourceDir.LeadsOn p ∧ p ≠ c.sourceDir

/-- A document is read where the machine can read it and the tree holds it. -/
theorem read_iff {bytes : List UInt8} : c.read tree p = .ok bytes ↔
    c.machine.unreadable? p = none ∧ tree.read p = .ok bytes := by
  rw [read]
  cases c.machine.unreadable? p <;> simp

/-- What the machine can read does not depend on the tree. -/
theorem read_same (h : other.read p = tree.read p) : c.read other p = c.read tree p := by
  rw [read, read, h]

/-- The files that are written for the document at a path: those of the class that its bytes in
the tree stand for. -/
inductive OutputOf (c : Config) (tree : FileTree) (p : Path) : Path → Prop where
  | interface {bytes : List UInt8} {pc : PageClass} (hread : c.read tree p = .ok bytes)
      (hclass : c.classOf p bytes = .ok pc) : OutputOf c tree p (outputPaths pc c.outputDir).1
  | implementation {bytes : List UInt8} {pc : PageClass} (hread : c.read tree p = .ok bytes)
      (hclass : c.classOf p bytes = .ok pc) : OutputOf c tree p (outputPaths pc c.outputDir).2

namespace OutputOf

variable {output : Path}

theorem exists_bytes (h : c.OutputOf tree p output) : ∃ bytes, c.read tree p = .ok bytes := by
  cases h with
  | interface hread _ => exact ⟨_, hread⟩
  | implementation hread _ => exact ⟨_, hread⟩

/-- The outputs of a document depend on its bytes alone. -/
theorem congr (h : c.OutputOf other p output) (hread : other.read p = tree.read p) :
    c.OutputOf tree p output := by
  have hread := c.read_same hread
  cases h with
  | interface hthere hclass => exact .interface (hread ▸ hthere) hclass
  | implementation hthere hclass => exact .implementation (hread ▸ hthere) hclass

end OutputOf

/-- The name of a page class holds no slash, and its package is made of the segments of the base
package and of segments without slashes and points. -/
theorem identity_plain (hp : c.LeadsTo p) : '/' ∉ (c.identity p).1.toList ∧
    ∃ segments, (∀ segment ∈ segments, '/' ∉ segment.toList ∧ '.' ∉ segment.toList) ∧
      c.outputDir.joinTexts (ResultType.parts '.' (c.identity p).2) = c.base.joinTexts segments := by
  obtain ⟨⟨hstart, names, hparts, hplain⟩, hne⟩ := hp
  have hnames : names ≠ [] := by
    rintro rfl
    rw [List.append_nil] at hparts
    refine hne ?_
    cases p
    exact congr (congrArg Path.mk hstart) hparts
  have hrelative : (p.relativeTo c.sourceDir).parts = names := by
    rw [Path.relativeTo, hparts, List.drop_left]
  have hname : p.name ∈ names := by
    rw [Path.name, hparts, List.getLastD_eq_getLast?, List.getLast?_append,
      List.getLast?_eq_some_getLast hnames, Option.some_or, Option.getD_some]
    exact List.getLast_mem hnames
  rw [identity, hrelative]
  dsimp only
  refine ⟨slash_notMem_pageObjectName (hplain _ hname),
    (names.dropLast.map Text.lower).flatMap (ResultType.parts '.'), ?_, ?_⟩
  · intro segment hsegment
    obtain ⟨text, htext, hsegment⟩ := List.mem_flatMap.mp hsegment
    obtain ⟨name, hname, rfl⟩ := List.mem_map.mp htext
    have hslash := Text.separator_notMem_lower (by decide) (hplain name (List.dropLast_subset _ hname))
    have hchars := ResultType.of_mem_parts hsegment
    exact ⟨fun hmem => hslash (hchars.2 _ hmem), hchars.1⟩
  · rw [Path.joinTexts_parts_intercalate, List.flatMap_append, Path.joinTexts_append, base]
    by_cases hbase : c.basePackage.isEmpty
    · rw [if_pos hbase, if_pos hbase, List.flatMap_nil]
    · rw [if_neg hbase, if_neg hbase, List.flatMap_singleton]

/-- The paths of the files of a page class have components, whatever the class is called. -/
theorem outputPaths_parts_ne_nil (pc : PageClass) (directory : Path) :
    (outputPaths pc directory).1.parts ≠ [] ∧ (outputPaths pc directory).2.parts ≠ [] := by
  have hjoin : ∀ (base : Path) (type : String), (base.join (.ofText (type ++ ".java"))).parts ≠ [] := by
    intro base type
    have hletter : 'j' ∈ (type ++ ".java").toList := by
      rw [String.toList_append]
      exact List.mem_append_right _ (by decide)
    have hparts := Path.parts_ofText_ne_nil hletter (by decide) (by decide)
    rw [Path.join]
    split
    · exact List.append_ne_nil_of_right_ne_nil _ hparts
    · exact hparts
  exact ⟨hjoin _ _, hjoin _ _⟩

/-- The files of a page class stand in the directory of its package and in `impl` below it. -/
theorem outputPaths_eq {pc : PageClass} {directory : Path} (hname : '/' ∉ pc.name.toList) :
    outputPaths pc directory =
      ((directory.joinTexts (ResultType.parts '.' pc.package)).child (javaFile pc.name),
        ((directory.joinTexts (ResultType.parts '.' pc.package)).child "impl").child
          (javaFile pc.implementationName)) := by
  have himplementation : '/' ∉ pc.implementationName.toList := by
    rw [PageClass.implementationName, String.toList_append, List.mem_append, not_or]
    exact ⟨hname, by decide⟩
  have hbase : (if pc.package.isEmpty then directory
      else directory.joinTexts (ResultType.parts '.' pc.package)) =
      directory.joinTexts (ResultType.parts '.' pc.package) := by
    by_cases hempty : pc.package.isEmpty
    · rw [if_pos hempty, String.isEmpty_iff.mp hempty]
      exact (Path.joinTexts_parts_intercalate directory []).symm
    · rw [if_neg hempty]
  have himpl : ∀ p : Path, p.join (.ofText "impl") = p.child "impl" :=
    fun p => Path.join_ofText p (by decide) (by decide)
  simp only [outputPaths, hbase, himpl]
  rw [join_javaFile _ hname, join_javaFile _ himplementation]

/-- The two files of a page class stand below the directory of its package. -/
theorem exists_below_outputPaths {pc : PageClass} (directory : Path)
    (hname : '/' ∉ pc.name.toList) : ∃ base,
      Path.Below base (outputPaths pc directory).1 ∧ Path.Below base (outputPaths pc directory).2 := by
  rw [outputPaths_eq hname]
  refine ⟨directory.joinTexts (ResultType.parts '.' pc.package), .file [] pc.name (by simp), ?_⟩
  have himpl : ∀ segment ∈ ["impl"], '.' ∉ segment.toList := by decide
  exact .of_child himpl

/-- The two files of a page class are two. -/
theorem outputPaths_ne {pc : PageClass} {directory : Path} (hname : '/' ∉ pc.name.toList) :
    (outputPaths pc directory).1 ≠ (outputPaths pc directory).2 := by
  rw [outputPaths_eq hname]
  exact fun heq => Path.child_ne _ _ (Path.child_inj.mp heq).1.symm

/-- **The files of documents stand below the base of the run.** -/
theorem OutputOf.below {output : Path} (h : c.OutputOf tree p output) (hp : c.LeadsTo p) :
    Path.Below c.base output := by
  obtain ⟨hname, segments, hsegments, hbase⟩ := identity_plain hp
  rw [Path.joinTexts_segments _ hsegments] at hbase
  have hplain : ∀ segment ∈ segments.filter (!·.isEmpty), '.' ∉ segment.toList :=
    fun segment hsegment => (hsegments segment (List.mem_filter.mp hsegment).1).2
  cases h with
  | interface hread hclass =>
    obtain ⟨hclassName, hpackage⟩ := PageClass.ofSource_named hclass
    rw [outputPaths_eq (hclassName ▸ hname), hpackage, hbase]
    exact .of_child hplain
  | implementation hread hclass =>
    obtain ⟨hclassName, hpackage⟩ := PageClass.ofSource_named hclass
    have himpl : ∀ segment ∈ segments.filter (!·.isEmpty) ++ ["impl"], '.' ∉ segment.toList := by
      intro segment hsegment
      rcases List.mem_append.mp hsegment with hsegment | himpl
      · exact hplain segment hsegment
      · obtain rfl := List.mem_singleton.mp himpl
        decide
    have hdirectory : ∀ front : List String,
        Path.child { c.base with parts := c.base.parts ++ front } "impl" =
          { c.base with parts := c.base.parts ++ (front ++ ["impl"]) } :=
      fun front => by rw [Path.child, List.append_assoc]
    rw [outputPaths_eq (hclassName ▸ hname), hpackage, hbase]
    dsimp only
    rw [hdirectory]
    exact .of_child himpl

/-- **Outputs of documents are separated**: none stands on the way of another. -/
theorem separated_outputs {outputs : Path → Prop}
    (h : ∀ output, outputs output → Path.Below c.base output) : FileTree.Separated outputs :=
  fun first second hfirst hsecond =>
    Path.Below.separated c.base first second (h first hfirst) (h second hsecond)

end Config
end PageObjects
