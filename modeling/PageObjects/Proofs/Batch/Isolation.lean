import PageObjects.Proofs.Batch.Discovery
import PageObjects.Proofs.Batch.Document

/-!
# Isolation of the documents of a run

The documents of a run are compiled one after the other in a tree that the documents before have
grown. Where no document stands in the way of an output, none of this shows: each document is read as
it was, its two files are admitted as they were, and so its result is the one it has alone. The one
thing that a run does not isolate is a document that ends it. The specification (5 and 7) says of the
Runner that a failure in one page object does not affect others.

* `Config.Batch.compileFile_grown`: a document in the tree that other documents have grown (the step).
* `Config.Batch.compileAll_expected`: documents in any order (the run).
* `Config.apart_of_names`, `Config.apart_of_defaultPatterns`: documents that stand in nobody's way.
* `Config.run_isolated`: **a run gives results exactly if no document ends it**, one for each
  document in order, and the others have the results of a run without it.
-/

namespace PageObjects.Config

open FileTree

variable {c : Config} {tree other grown : FileTree} {p : Path} {r : BatchResult}

/-! ## Documents that do not meet -/

/-- The outputs of all the documents. -/
def Outputs (c : Config) (tree : FileTree) (paths : List Path) (output : Path) : Prop :=
  ∃ p ∈ paths, c.OutputOf tree p output

/-- No document stands where an output, or a directory on the way to one, is to stand. -/
def Apart (c : Config) (tree : FileTree) (paths : List Path) : Prop :=
  ∀ p ∈ paths, tree.HasFile p.resolved → ∀ output, c.Outputs tree paths output →
    p.resolved ≠ output.resolved ∧ p.resolved ∉ output.way

/-- The documents are there, those that can be read lie below the source directory, and none stands in
the way of an output. -/
structure Batch (c : Config) (tree : FileTree) (paths : List Path) : Prop where
  found : ∀ p ∈ paths, tree.Found p
  leads : ∀ p ∈ paths, ∀ bytes, c.read tree p = .ok bytes → c.LeadsTo p
  apart : c.Apart tree paths

namespace Batch

variable {paths : List Path} (h : c.Batch tree paths)
include h

theorem separated : Separated (c.Outputs tree paths) := by
  refine separated_outputs (c := c) ?_
  rintro output ⟨p, hp, houtput⟩
  obtain ⟨bytes, hread⟩ := houtput.exists_bytes
  exact houtput.below (h.leads p hp bytes hread)

/-- Writing outputs changes no document. -/
theorem read_grown (hp : p ∈ paths) (hgrows : Grows (c.Outputs tree paths) tree grown) :
    grown.read p = tree.read p := by
  obtain ⟨hreaches, hpresent⟩ := h.found p hp
  refine read_congr (hgrows.reaches hreaches) hreaches ?_
  cases hat : tree.at? p.resolved with
  | none => exact absurd hat hpresent
  | some node =>
    cases node with
    | directory => exact hgrows.directory hat
    | file bytes =>
      rw [hgrows.at?_eq hpresent fun output houtput => (h.apart p hp ⟨bytes, hat⟩ output houtput).1,
        hat]

/-- Writing outputs changes nothing of what the tree admits of them. -/
theorem admits_grown (hp : p ∈ paths) (hgrows : Grows (c.Outputs tree paths) tree grown)
    {output : Path} (houtput : c.OutputOf tree p output) :
    grown.Admits output ↔ tree.Admits output := hgrows.admits_iff h.separated ⟨p, hp, houtput⟩

/-- A document ends the run after others exactly as it does alone. -/
theorem escapes_grown (hp : p ∈ paths) (hgrows : Grows (c.Outputs tree paths) tree grown)
    {e : RunError} : c.Escapes grown p e ↔ c.Escapes tree p e := by
  have hread := h.read_grown hp hgrows
  constructor
  · exact Escapes.congr hread (h.leads p hp) fun output => h.admits_grown hp hgrows
  · refine Escapes.congr hread.symm (fun bytes hbytes => h.leads p hp bytes ?_) fun output houtput => ?_
    · rwa [c.read_same hread] at hbytes
    · exact (h.admits_grown hp hgrows (houtput.congr hread)).symm

/-- **The step**: a document that is compiled after others has the result that it has alone, and
the tree has grown at outputs only. -/
theorem compileFile_grown {next : FileTree} (hp : p ∈ paths)
    (hgrows : Grows (c.Outputs tree paths) tree grown)
    (hcompiled : c.compileFile grown p = .ok (next, r)) :
    c.Expected tree p r ∧ Grows (c.Outputs tree paths) tree next := by
  have hread := h.read_grown hp hgrows
  constructor
  · exact expected_of_compileFile hcompiled hread (h.leads p hp) fun output =>
      h.admits_grown hp hgrows
  · obtain ⟨outcome, hsettles, -⟩ := compileFile_eq_ok.mp hcompiled
    exact hgrows.trans (hsettles.grows.mono fun output houtput => ⟨p, hp, houtput.congr hread⟩)

/-- **The run**: documents that are compiled one after the other have the results that they have
alone, and none of them ends the run. -/
theorem compileAll_expected {ps : List Path} (hps : ps ⊆ paths) {last : FileTree}
    {results : List BatchResult} (hgrows : Grows (c.Outputs tree paths) tree grown)
    (hcompiled : c.compileAll grown ps = .ok (last, results)) :
    (∀ r ∈ results, c.Expected tree r.source r) ∧ ∀ p ∈ ps, ∀ e, ¬ c.Escapes tree p e := by
  induction ps generalizing grown results with
  | nil =>
    obtain ⟨-, rfl⟩ := Prod.mk.inj (Except.ok.inj hcompiled)
    simp
  | cons p ps ih =>
    rw [List.cons_subset] at hps
    obtain ⟨next, r, rest, hfile, hrest, rfl⟩ := compileAll_cons_eq_ok.mp hcompiled
    obtain ⟨hexpected, hnext⟩ := h.compileFile_grown hps.1 hgrows hfile
    obtain ⟨hall, hescapes⟩ := ih hps.2 hnext hrest
    constructor
    · exact List.forall_mem_cons.mpr ⟨hexpected.source.symm ▸ hexpected, hall⟩
    · refine List.forall_mem_cons.mpr ⟨fun e hescape => ?_, hescapes⟩
      have hends := compileFile_eq_error.mpr ((h.escapes_grown hps.1 hgrows).mpr hescape)
      exact absurd (hfile.symm.trans hends) (by simp)

/-- Documents of which none ends the run are all compiled. -/
theorem compileAll_of_not_escapes {ps : List Path} (hps : ps ⊆ paths)
    (hgrows : Grows (c.Outputs tree paths) tree grown)
    (hescapes : ∀ p ∈ ps, ∀ e, ¬ c.Escapes tree p e) :
    ∃ last results, c.compileAll grown ps = .ok (last, results) := by
  induction ps generalizing grown with
  | nil => exact ⟨grown, [], rfl⟩
  | cons p ps ih =>
    rw [List.cons_subset] at hps
    rw [List.forall_mem_cons] at hescapes
    cases hfile : c.compileFile grown p with
    | error e =>
      exact absurd ((h.escapes_grown hps.1 hgrows).mp (compileFile_eq_error.mp hfile)) (hescapes.1 e)
    | ok compiled =>
      obtain ⟨next, r⟩ := compiled
      obtain ⟨-, hnext⟩ := h.compileFile_grown hps.1 hgrows hfile
      obtain ⟨last, rest, hrest⟩ := ih hps.2 hnext hescapes.2
      exact ⟨last, r :: rest, compileAll_cons_eq_ok.mpr ⟨next, r, rest, hfile, hrest, rfl⟩⟩

end Batch

/-! ## Runs -/

/-- The documents at other places. -/
def others (place : Path) (paths : List Path) : List Path :=
  paths.filter fun p => p.resolved != place

theorem mem_others {place : Path} {paths : List Path} :
    p ∈ others place paths ↔ p ∈ paths ∧ p.resolved ≠ place := by
  rw [others, List.mem_filter, bne_iff_ne]

namespace Batch

variable {paths : List Path} {q : Path} (h : c.Batch tree paths)
include h

/-- Without the file of a document the other documents are as they were. -/
theorem read_without (hfile : tree.HasFile p.resolved) (hq : q ∈ others p.resolved paths) :
    (tree.without p.resolved).read q = tree.read q := by
  obtain ⟨hq, hne⟩ := mem_others.mp hq
  have hreaches := (h.found q hq).reaches
  exact read_congr ((reaches_without hfile).mpr hreaches) hreaches (at?_without_of_ne hne)

/-- The documents of the tree without the file of one. -/
theorem without (hfile : tree.HasFile p.resolved) :
    c.Batch (tree.without p.resolved) (others p.resolved paths) where
  found q hq := by
    obtain ⟨hq, hne⟩ := mem_others.mp hq
    obtain ⟨hreaches, hpresent⟩ := h.found q hq
    exact ⟨(reaches_without hfile).mpr hreaches, by rwa [at?_without_of_ne hne]⟩
  leads q hq bytes hbytes :=
    h.leads q (mem_others.mp hq).1 bytes (c.read_same (h.read_without hfile hq) ▸ hbytes)
  apart q hq hqfile output houtput := by
    obtain ⟨hq, hne⟩ := mem_others.mp hq
    refine h.apart q hq ((hasFile_without hne).mp hqfile) output ?_
    obtain ⟨s, hs, houtput⟩ := houtput
    exact ⟨s, (mem_others.mp hs).1, houtput.congr (h.read_without hfile hs)⟩

/-- The file of a document does not matter to what is admitted of the outputs of another. -/
theorem admits_without_iff (hp : p ∈ paths) (hfile : tree.HasFile p.resolved) (hq : q ∈ paths)
    {output : Path} (houtput : c.OutputOf tree q output) :
    (tree.without p.resolved).Admits output ↔ tree.Admits output :=
  admits_without hfile (h.apart p hp hfile output ⟨q, hq, houtput⟩)

/-- What is expected of a document without the file of another is expected of it with the file. -/
theorem expected_of_without (hp : p ∈ paths) (hfile : tree.HasFile p.resolved)
    (hq : q ∈ others p.resolved paths) (hexpected : c.Expected (tree.without p.resolved) q r) :
    c.Expected tree q r := by
  have hmem := (mem_others.mp hq).1
  obtain ⟨grown, r', hcompiled, halike⟩ := hexpected
  obtain ⟨grown', r'', hcompiled', halike'⟩ := expected_of_compileFile hcompiled
    (h.read_without hfile hq) (h.leads q hmem)
    fun output => h.admits_without_iff hp hfile hmem
  exact ⟨grown', r'', hcompiled', halike.trans halike'⟩

/-- **Without the file of a document, the others have the results that they had.** -/
theorem compileAll_without (hp : p ∈ paths) (hfile : tree.HasFile p.resolved) {last : FileTree}
    {results : List BatchResult} (hcompiled : c.compileAll tree paths = .ok (last, results)) :
    ∃ last' rest,
      c.compileAll (tree.without p.resolved) (others p.resolved paths) = .ok (last', rest) ∧
      List.Forall₂ BatchResult.Alike
        (results.filter fun r => r.source.resolved != p.resolved) rest := by
  obtain ⟨hexpected, hescapes⟩ := h.compileAll_expected (List.Subset.refl paths) .refl hcompiled
  have hrest := h.without hfile
  obtain ⟨last', rest, hcompiled'⟩ :=
    hrest.compileAll_of_not_escapes (List.Subset.refl _) .refl fun q hq e hescape =>
      hescapes q (mem_others.mp hq).1 e <| Escapes.congr (h.read_without hfile hq)
        (h.leads q (mem_others.mp hq).1) (fun output => h.admits_without_iff hp hfile (mem_others.mp hq).1)
        hescape
  obtain ⟨hexpected', -⟩ := hrest.compileAll_expected (List.Subset.refl _) .refl hcompiled'
  have hsources := compileAll_sources hcompiled'
  have hsame : (results.filter fun r => r.source.resolved != p.resolved).map (·.source) =
      rest.map (·.source) := by
    rw [hsources, ← compileAll_sources hcompiled, others, List.filter_map]
    rfl
  have hrestExpected : ∀ r ∈ rest, c.Expected tree r.source r := fun r hr =>
    h.expected_of_without hp hfile (hsources ▸ List.mem_map_of_mem hr) (hexpected' r hr)
  exact ⟨last', rest, hcompiled', forall₂_alike_of_expected hsame
    (fun r hr => hexpected r (List.mem_filter.mp hr).1) hrestExpected⟩

/-- Documents of which none ends the run have the results that they have alone, in any order. -/
theorem compileAll_perm {order : List Path} (horder : order.Perm paths)
    (hescapes : ∀ p ∈ paths, ∀ e, ¬ c.Escapes tree p e) :
    ∃ last results, c.compileAll tree order = .ok (last, results) ∧
      results.map (·.source) = order ∧ ∀ r ∈ results, c.Expected tree r.source r := by
  obtain ⟨last, results, hcompiled⟩ := h.compileAll_of_not_escapes horder.subset .refl
    fun p hp => hescapes p (horder.subset hp)
  exact ⟨last, results, hcompiled, compileAll_sources hcompiled,
    (h.compileAll_expected horder.subset .refl hcompiled).1⟩

end Batch

section Run

variable {paths : List Path}

theorem run_eq_ok {summary : BatchSummary} : c.run tree = .ok summary ↔ ∃ paths,
    c.discover tree = .ok paths ∧
      c.compileAll tree paths = .ok (summary.tree, summary.results) := by
  rw [run]
  cases c.discover tree with
  | error e => simp
  | ok paths =>
    cases hall : c.compileAll tree paths with
    | error e => simp [hall]
    | ok compiled =>
      obtain ⟨last, results⟩ := compiled
      cases summary
      simp [hall, and_comm]

theorem run_eq_error {e : RunError} : c.run tree = .error e ↔
    (∃ s, c.discover tree = .error s ∧ e = .search s) ∨
      ∃ paths, c.discover tree = .ok paths ∧ c.compileAll tree paths = .error e := by
  rw [run]
  cases c.discover tree with
  | error s => simp [eq_comm]
  | ok paths =>
    cases hall : c.compileAll tree paths <;> simp [hall]

/-- A document that can be read lies below the source directory, which is no file itself. -/
theorem leadsTo_of_discover (htree : tree.WellFormed) (hdiscover : c.discover tree = .ok paths)
    (hp : p ∈ paths) {bytes : List UInt8} (hread : c.read tree p = .ok bytes) : c.LeadsTo p := by
  obtain ⟨-, hleads, hstands⟩ := discover_found htree hdiscover p hp
  refine ⟨hleads, ?_⟩
  rintro rfl
  obtain ⟨-, hfile⟩ := read_eq_ok (read_iff.mp hread).2
  exact absurd ((stands_iff.mp hstands).2.symm.trans hfile) (by simp)

/-- The documents of a well-formed tree that stand in nobody's way do not meet. -/
theorem batch_of_discover (htree : tree.WellFormed) (hdiscover : c.discover tree = .ok paths)
    (hapart : c.Apart tree paths) : c.Batch tree paths where
  found p hp := (discover_found htree hdiscover p hp).1
  leads _ hp _ hread := leadsTo_of_discover htree hdiscover hp hread
  apart := hapart

/-- Documents with points in their names, which are not those of types' files, stand in nobody's way
unless they stand on the way to the base of the run. -/
theorem apart_of_names (htree : tree.WellFormed) (hdiscover : c.discover tree = .ok paths)
    (hbase : ∀ p ∈ paths, p.resolved ∉ c.base.stops)
    (hpoint : ∀ p ∈ paths, '.' ∈ p.resolved.name.toList)
    (hname : ∀ p ∈ paths, ¬ ".java".toList <:+ p.resolved.name.toList) : c.Apart tree paths := by
  intro p hp _ output ⟨q, hq, houtput⟩
  obtain ⟨bytes, hread⟩ := houtput.exists_bytes
  have hbelow := houtput.below (leadsTo_of_discover htree hdiscover hq hread)
  exact hbelow.apart (hbase p hp) (hpoint p hp) fun type hjava =>
    hname p hp (hjava ▸ suffix_javaFile type)

/-- With the default pattern, documents stand in nobody's way unless they stand on the way to the base
of the run. -/
theorem apart_of_defaultPatterns (htree : tree.WellFormed) (hdiscover : c.discover tree = .ok paths)
    (hpatterns : c.filePatterns = ["*.utam.json"])
    (hbase : ∀ p ∈ paths, p.resolved ∉ c.base.stops) : c.Apart tree paths := by
  have hending := discover_ending hdiscover hpatterns
  refine apart_of_names htree hdiscover hbase (fun p hp => ?_) fun p hp hjava => ?_
  · exact (hending p hp).subset (by decide)
  · have hsuffix := List.suffix_of_suffix_length_le hjava (hending p hp) (by decide)
    exact absurd hsuffix (by decide)

end Run

/-- The documents do not touch each other: whatever their order, each has the result that it has alone
in the tree, and without the file of any one of them the others have the results that they had. -/
structure Isolated (c : Config) (tree : FileTree) (paths : List Path) (summary : BatchSummary) :
    Prop where
  expected : ∀ r ∈ summary.results, c.Expected tree r.source r
  inAnyOrder : ∀ order : List Path, order.Perm paths →
    ∃ last results, c.compileAll tree order = .ok (last, results) ∧
      results.map (·.source) = order ∧ ∀ r ∈ results, c.Expected tree r.source r
  without : ∀ p ∈ paths, tree.HasFile p.resolved →
    ∃ rest, c.run (tree.without p.resolved) = .ok rest ∧
      List.Forall₂ BatchResult.Alike
        (summary.results.filter fun r => r.source.resolved != p.resolved) rest.results

/-- **A run gives one result for each document, in the order of the paths, unless the search fails or a
document ends the run**: one at which the reader meets a limit (an integer of more digits than can be
read, or more levels than are left to it), one with a null character in its output path, or one with a
text that the machine cannot encode, and nothing else that a document holds or the machine refuses. Where no document stands in the way of an
output, those are the documents that would end it alone, and the others are isolated from each other,
but for the words in which a failed write tells its operation. -/
theorem run_isolated (htree : tree.WellFormed) :
    (∀ e, c.run tree = .error e ↔ (∃ s, c.discover tree = .error s ∧ e = .search s) ∨
      ∃ front p back grown results, c.discover tree = .ok (front ++ p :: back) ∧
        c.compileAll tree front = .ok (grown, results) ∧ c.Escapes grown p e) ∧
    (∀ summary, c.run tree = .ok summary →
      c.discover tree = .ok (summary.results.map (·.source)) ∧
        (summary.results.map (·.source)).Nodup ∧
        (summary.results.map (·.source)).Pairwise (·.le ·)) ∧
    ∀ paths, c.discover tree = .ok paths → c.Apart tree paths →
      ((∃ summary, c.run tree = .ok summary) ↔ ∀ p ∈ paths, ∀ e, ¬ c.Escapes tree p e) ∧
        ∀ summary, c.run tree = .ok summary → c.Isolated tree paths summary := by
  refine ⟨fun e => ?_, fun summary h => ?_, fun paths hdiscover hapart => ?_⟩
  · rw [run_eq_error]
    refine or_congr_right ⟨?_, ?_⟩
    · rintro ⟨paths, hdiscover, h⟩
      obtain ⟨front, p, back, grown, results, rfl, hfront, hescapes⟩ := compileAll_eq_error.mp h
      exact ⟨front, p, back, grown, results, hdiscover, hfront, hescapes⟩
    · rintro ⟨front, p, back, grown, results, hdiscover, hfront, hescapes⟩
      exact ⟨_, hdiscover,
        compileAll_eq_error.mpr ⟨front, p, back, grown, results, rfl, hfront, hescapes⟩⟩
  · obtain ⟨paths, hdiscover, hcompiled⟩ := run_eq_ok.mp h
    rw [compileAll_sources hcompiled]
    exact ⟨hdiscover, discover_ordered hdiscover⟩
  · have hbatch := batch_of_discover htree hdiscover hapart
    have hcompiled : ∀ {summary}, c.run tree = .ok summary →
        c.compileAll tree paths = .ok (summary.tree, summary.results) := by
      intro summary h
      obtain ⟨paths', hdiscover', hcompiled⟩ := run_eq_ok.mp h
      rwa [Except.ok.inj (hdiscover.symm.trans hdiscover')]
    constructor
    · constructor
      · rintro ⟨summary, h⟩
        exact (hbatch.compileAll_expected (List.Subset.refl paths) .refl (hcompiled h)).2
      · intro hescapes
        obtain ⟨last, results, hall⟩ :=
          hbatch.compileAll_of_not_escapes (List.Subset.refl paths) .refl hescapes
        exact ⟨⟨results, last⟩, run_eq_ok.mpr ⟨paths, hdiscover, hall⟩⟩
    · intro summary h
      obtain ⟨hexpected, hescapes⟩ :=
        hbatch.compileAll_expected (List.Subset.refl paths) .refl (hcompiled h)
      refine ⟨hexpected, fun order horder => hbatch.compileAll_perm horder hescapes,
        fun p hp hfile => ?_⟩
      have hdiscover' : c.discover (tree.without p.resolved) = .ok (others p.resolved paths) := by
        rw [discover_without htree hfile, hdiscover]
        rfl
      obtain ⟨last, rest, hrest, halike⟩ := hbatch.compileAll_without hp hfile (hcompiled h)
      exact ⟨⟨rest, last⟩, run_eq_ok.mpr ⟨_, hdiscover', hrest⟩, halike⟩

/-! ## A run over two documents -/

/-- The documents of the directory `in` are compiled into `out`. -/
def twoRun : Config := { sourceDir := ⟨"", ["in"]⟩, outputDir := ⟨"", ["out"]⟩ }

def firstPath : Path := ⟨"", ["in", "a.utam.json"]⟩

def secondPath : Path := ⟨"", ["in", "b.utam.json"]⟩

/-- One digit more than can be read. -/
def tooManyOnes : List UInt8 := List.replicate 4301 49

/-- A first document of any bytes, and a second one that is an empty page object. -/
def twoDocuments (bytes : List UInt8) : FileTree :=
  [(⟨"", ["in"]⟩, .directory), (firstPath, .file bytes), (secondPath, .file [0x7b, 0x7d])]

theorem twoDocuments_wellFormed (bytes : List UInt8) : (twoDocuments bytes).WellFormed := by
  rw [twoDocuments]
  constructor
  · simp [firstPath, secondPath]
  · simp [firstPath, secondPath, Path.name]
  · simp [firstPath, secondPath, Path.name]
  · simp [firstPath, secondPath, at?, Path.isAnchor, Path.parent, List.lookup_cons]

theorem twoDocuments_hasFile (bytes : List UInt8) :
    (twoDocuments bytes).HasFile firstPath.resolved :=
  ⟨bytes, rfl⟩

theorem twoRun_discover_of_find {paths : List Path}
    (hfind : Pattern.find tree twoRun.sourceDir "*.utam.json" = .ok paths)
    (harrange : Path.arrange paths = paths) : twoRun.discover tree = .ok paths := by
  rw [discover_eq, show twoRun.filePatterns = ["*.utam.json"] from rfl, List.mapM_cons, hfind]
  exact congrArg Except.ok ((congrArg Path.arrange (List.append_nil paths)).trans harrange)

theorem twoRun_discover {bytes : List UInt8}
    (h : Pattern.find (twoDocuments bytes) twoRun.sourceDir "*.utam.json" =
      .ok [firstPath, secondPath]) :
    twoRun.discover (twoDocuments bytes) = .ok [firstPath, secondPath] :=
  twoRun_discover_of_find h (List.mergeSort_of_pairwise (by decide))

theorem twoRun_apart {bytes : List UInt8}
    (h : twoRun.discover (twoDocuments bytes) = .ok [firstPath, secondPath]) :
    twoRun.Apart (twoDocuments bytes) [firstPath, secondPath] :=
  apart_of_defaultPatterns (twoDocuments_wellFormed bytes) h rfl (by decide)

/-- A document that breaks off has an error of its own, and the other one is compiled. -/
theorem twoRun_isolated : (twoDocuments [0x5b]).WellFormed ∧
    ∃ summary, twoRun.run (twoDocuments [0x5b]) = .ok summary ∧
      summary.results.map (·.succeeded) = [false, true] ∧
      twoRun.Isolated (twoDocuments [0x5b]) [firstPath, secondPath] summary := by
  have htree := twoDocuments_wellFormed [0x5b]
  have hdiscover := @twoRun_discover [0x5b] (by decide +kernel)
  have hsucceeded : (twoRun.compileAll (twoDocuments [0x5b]) [firstPath, secondPath]).map
      (fun compiled => compiled.2.map (·.succeeded)) = .ok [false, true] := by
    decide +kernel
  obtain ⟨⟨last, results⟩, hcompiled, hresults⟩ := map_eq_ok.mp hsucceeded
  have hrun : twoRun.run (twoDocuments [0x5b]) = .ok ⟨results, last⟩ :=
    run_eq_ok.mpr ⟨_, hdiscover, hcompiled⟩
  have hisolated := (run_isolated htree).2.2 _ hdiscover (twoRun_apart hdiscover)
  exact ⟨htree, _, hrun, hresults, hisolated.2 _ hrun⟩

/-- One list more than there are levels for the reader. -/
def tooManyBrackets : List UInt8 := List.replicate 991 0x5B

theorem twoRun_ends_of_escapes {bytes : List UInt8} {e : RunError}
    (hdiscover : twoRun.discover (twoDocuments bytes) = .ok [firstPath, secondPath])
    (h : twoRun.Escapes (twoDocuments bytes) firstPath e) :
    twoRun.run (twoDocuments bytes) = .error e :=
  run_eq_error.mpr (.inr ⟨_, hdiscover,
    compileAll_eq_error.mpr ⟨[], firstPath, [secondPath], _, [], rfl, rfl, h⟩⟩)

/-- A document of one digit more than can be read ends the run, and so does one of one list more; the run
has a result for the other document without it. -/
theorem twoRun_ends :
    twoRun.run (twoDocuments tooManyOnes) = .error (.beyond .oversizedInteger) ∧
    twoRun.run (twoDocuments tooManyBrackets) = .error (.beyond .tooDeep) ∧
    ∃ rest, twoRun.run ((twoDocuments tooManyOnes).without firstPath.resolved) =
        .ok rest ∧
      rest.results.map (fun r => (r.source, r.succeeded)) = [(secondPath, true)] := by
  have htree := twoDocuments_wellFormed tooManyOnes
  have hdiscover := @twoRun_discover tooManyOnes (by decide +kernel)
  refine ⟨?_, ?_, ?_⟩
  · have hnumeral : Json.Parser.IsNumeral tooManyOnes := by
      refine ⟨fun byte hbyte => ?_, by simp [tooManyOnes]⟩
      rw [List.eq_of_mem_replicate hbyte]
      decide
    refine twoRun_ends_of_escapes hdiscover (.of_digits rfl hnumeral ?_)
    rw [tooManyOnes, List.length_replicate]
    decide
  · exact twoRun_ends_of_escapes (@twoRun_discover tooManyBrackets (by decide +kernel))
      (.of_brackets rfl (by decide))
  · have hsucceeded : (twoRun.compileAll
        ((twoDocuments tooManyOnes).without firstPath.resolved) [secondPath]).map
        (fun compiled => compiled.2.map fun r => (r.source, r.succeeded)) =
          .ok [(secondPath, true)] := by
      decide +kernel
    obtain ⟨⟨last, results⟩, hcompiled, hresults⟩ := map_eq_ok.mp hsucceeded
    have hothers : twoRun.discover
        ((twoDocuments tooManyOnes).without firstPath.resolved) = .ok [secondPath] := by
      rw [discover_without htree (twoDocuments_hasFile _), hdiscover]
      rfl
    exact ⟨⟨results, last⟩, run_eq_ok.mpr ⟨_, hothers, hcompiled⟩, hresults⟩

end PageObjects.Config
