import PageObjects.Proofs.Batch.Isolation
import PageObjects.Proofs.Batch.Sharing
import PageObjects.Proofs.Batch.Workers
import PageObjects.Proofs.Document.Source

/-!
# Outputs under any schedule

Workers that take turns write into one tree, and one may write over a file of another, or over a
document that was not read yet. What a worker wrote stays unless another document has the same
output; and a document that was written over is refused, since generated source is no document, and a
beginning of it, at which the machine stopped, is none either. This is about the Runner in parallel
(specification, 5) and its files (6).

* `Config.Keeps`: the files of a document hold its source, but for those it shares; `Config.Exact`: all
  of them do.
* `Config.Kept.turn`: what every turn of a worker keeps (the step).
* `Config.Kept.interleave`: what every schedule keeps (the run).
* `Config.run_keeps`: **the files of a document that was compiled hold its source, unless another
  document that is translated has the same output**, whatever the schedule.
* `Config.twoNames_lost`: two documents that are compiled into the same files.
-/

namespace PageObjects

open FileTree

namespace Config

variable {c : Config} {tree now next : FileTree} {paths files : List Path} {p q output : Path}
  {text : String} {m : Moment}

/-! ## What a run keeps -/

/-- The file at an output of a document holds the text, unless another document has that output. -/
def Holds (c : Config) (tree : FileTree) (paths : List Path) (now : FileTree) (p output : Path)
    (text : String) : Prop :=
  now.read output = .ok text.toUTF8.toList ∨ ∃ q ∈ paths, q ≠ p ∧ c.OutputOf tree q output

/-- The files are those of the page class that the document stood for before the run, and hold its
interface and its class, but for a file that another document has as an output. -/
inductive Keeps (c : Config) (tree : FileTree) (paths : List Path) (now : FileTree) (p : Path) :
    List Path → Prop where
  | intro {bytes : List UInt8} {pc : PageClass} (hread : c.read tree p = .ok bytes)
      (hclass : c.classOf p bytes = .ok pc)
      (hinterface : c.Holds tree paths now p (outputPaths pc c.outputDir).1 (Java.interfaceSource pc))
      (himplementation :
        c.Holds tree paths now p (outputPaths pc c.outputDir).2 (Java.classSource pc)) :
      Keeps c tree paths now p (outputFiles pc c.outputDir)

/-- The files hold the interface and the class of the document, each of them. -/
def Exact (c : Config) (tree now : FileTree) (p : Path) (files : List Path) : Prop :=
  ∃ bytes pc, c.read tree p = .ok bytes ∧ c.classOf p bytes = .ok pc ∧
    files = outputFiles pc c.outputDir ∧
    now.read (outputPaths pc c.outputDir).1 = .ok (Java.interfaceSource pc).toUTF8.toList ∧
    now.read (outputPaths pc c.outputDir).2 = .ok (Java.classSource pc).toUTF8.toList

/-- A document that shares no output keeps both its files. -/
theorem Keeps.exact (h : c.Keeps tree paths now p files)
    (halone : ∀ q ∈ paths, q ≠ p →
      ¬ ∃ output, c.OutputOf tree p output ∧ c.OutputOf tree q output) :
    c.Exact tree now p files := by
  have hread : ∀ {output text}, c.Holds tree paths now p output text → c.OutputOf tree p output →
      now.read output = .ok text.toUTF8.toList := by
    intro output text hholds houtput
    refine hholds.resolve_right ?_
    rintro ⟨q, hq, hne, hshared⟩
    exact halone q hq hne ⟨output, houtput, hshared⟩
  cases h with
  | intro hbytes hclass hinterface himplementation =>
    exact ⟨_, _, hbytes, hclass, rfl, hread hinterface (.interface hbytes hclass),
      hread himplementation (.implementation hbytes hclass)⟩

/-- How far a worker has come agrees with the files that stand now: what it has written is held. -/
inductive Sound (c : Config) (tree : FileTree) (paths : List Path) (now : FileTree) (p : Path) :
    Progress → Prop where
  | waiting : Sound c tree paths now p .waiting
  | writing {bytes : List UInt8} {pc : PageClass} {done left : List Effect}
      (hread : c.read tree p = .ok bytes) (hclass : c.classOf p bytes = .ok pc)
      (hsplit : done ++ left = effects pc c.outputDir)
      (hdone : ∀ path source, .write path source ∈ done → c.Holds tree paths now p path source) :
      Sound c tree paths now p (.writing pc left)
  | written {files : List Path} (hkeeps : c.Keeps tree paths now p files) :
      Sound c tree paths now p (.settled (.ok files))
  | failed (e : BatchError) : Sound c tree paths now p (.settled (.error e))
  | ended (e : RunError) : Sound c tree paths now p (.ended e)

/-- What holds at every moment of a run: the tree has grown at outputs alone, each file is an old one
or a beginning of generated source, and all workers are sound. -/
structure Kept (c : Config) (tree : FileTree) (paths : List Path) (m : Moment) : Prop where
  grows : Grows (c.Outputs tree paths) tree m.tree
  files : ∀ place bytes, m.tree.at? place = some (.file bytes) →
    tree.at? place = some (.file bytes) ∨ Java.IsBegun bytes
  sound : ∀ p ∈ paths, c.Sound tree paths m.tree p (m.progress p)

theorem Kept.start : c.Kept tree paths (.start tree) where
  grows := .refl
  files _ _ h := .inl h
  sound _ _ := .waiting

/-- A beginning of generated source stands for no page class. -/
theorem classOf_isBegun {bytes : List UInt8} {pc : PageClass} (h : Java.IsBegun bytes) :
    c.classOf p bytes ≠ .ok pc := by
  intro hclass
  obtain ⟨d, -, -, -, hload, -⟩ := PageClass.ofSource_eq_ok hclass
  obtain ⟨e, herror⟩ := Document.load_isBegun h c.machine.levels
  exact absurd (herror.symm.trans hload) (by simp)

/-- The files of the page class of a document are its outputs. -/
theorem outputOf_of_mem {bytes : List UInt8} {pc : PageClass} (hread : c.read tree p = .ok bytes)
    (hclass : c.classOf p bytes = .ok pc) (h : output ∈ outputFiles pc c.outputDir) :
    c.OutputOf tree p output := by
  rw [outputFiles, List.mem_cons, List.mem_singleton] at h
  rcases h with rfl | rfl
  · exact .interface hread hclass
  · exact .implementation hread hclass

/-- What a turn of a worker does to the tree: nothing, or an operation for a file of its document. -/
inductive Touches (c : Config) (tree now : FileTree) (p : Path) : FileTree → Prop where
  | nothing : Touches c tree now p now
  | operation {pc : PageClass} {effect : Effect} (hmem : effect ∈ effects pc c.outputDir)
      (hpath : c.OutputOf tree p effect.path) :
      Touches c tree now p (effect.perform (c.machine.refusal? p) now).1

/-- A file that stands after a turn was there before, or is a beginning of generated source. -/
theorem Touches.file {place : Path} {bytes : List UInt8} (h : c.Touches tree now p next)
    (hfile : next.at? place = some (.file bytes)) :
    now.at? place = some (.file bytes) ∨ Java.IsBegun bytes := by
  cases h with
  | nothing => exact .inl hfile
  | operation hmem =>
    refine (Effect.perform_file hfile).imp_right ?_
    rintro ⟨source, heffect, hprefix⟩
    rw [heffect] at hmem
    rcases write_mem_effects hmem with ⟨-, rfl⟩ | ⟨-, rfl⟩
    · exact ⟨_, ⟨_, .inl rfl⟩, hprefix⟩
    · exact ⟨_, ⟨_, .inr rfl⟩, hprefix⟩

/-- A worker that has done all its operations keeps its files. -/
theorem Sound.keeps {pc : PageClass} (h : c.Sound tree paths now p (.writing pc [])) :
    c.Keeps tree paths now p (outputFiles pc c.outputDir) := by
  cases h with
  | writing hread hclass hsplit hdone =>
    rw [List.append_nil] at hsplit
    subst hsplit
    exact .intro hread hclass (hdone _ _ (by simp [effects, fileEffects]))
      (hdone _ _ (by simp [effects, fileEffects]))

section Run

variable (htree : tree.WellFormed) (hdiscover : c.discover tree = .ok paths)
include htree hdiscover

theorem below_of_outputs (h : c.Outputs tree paths output) : Path.Below c.base output := by
  obtain ⟨q, hq, houtput⟩ := h
  obtain ⟨bytes, hread⟩ := houtput.exists_bytes
  exact houtput.below (leadsTo_of_discover htree hdiscover hq hread)

/-- **A document that is translated is read as it was before the run**, whatever was written over other
documents. -/
theorem Kept.read_eq {bytes : List UInt8} {pc : PageClass} (h : c.Kept tree paths m)
    (hp : p ∈ paths) (hread : c.read m.tree p = .ok bytes) (hclass : c.classOf p bytes = .ok pc) :
    c.read tree p = .ok bytes := by
  obtain ⟨hreaches, hfile⟩ := read_eq_ok (read_iff.mp hread).2
  rcases h.files _ _ hfile with hold | hbegun
  · have hfound := (discover_found htree hdiscover p hp).1
    rw [← hread]
    exact c.read_same (read_congr hfound.reaches hreaches (hold.trans hfile.symm))
  · -- what was written over the document would not have been translated
    exact absurd hclass (classOf_isBegun hbegun)

/-- What is held stays held when a worker does an operation, unless the worker is that of the document
and the operation is for the same file. -/
theorem Holds.step (h : c.Holds tree paths now p output text) (hp : p ∈ paths)
    (houtput : c.OutputOf tree p output) {path : Path} (hq : q ∈ paths)
    (hpath : c.OutputOf tree q path) (hown : q = p → path ≠ output)
    (hgrows : Grows (· = path) now next) : c.Holds tree paths next p output text := by
  rcases h with hread | hshared
  · by_cases hsame : path = output
    · exact .inr ⟨q, hq, fun hqp => hown hqp hsame, hsame ▸ hpath⟩
    · obtain ⟨hreaches, hfile⟩ := read_eq_ok hread
      have hapart : ∀ other, other = path → output.resolved ≠ other.resolved := by
        rintro _ rfl hplace
        exact hsame ((below_of_outputs htree hdiscover ⟨p, hp, houtput⟩).resolved_inj
          (below_of_outputs htree hdiscover ⟨q, hq, hpath⟩) hplace).symm
      refine .inl (Eq.trans (read_congr (hgrows.reaches hreaches) hreaches ?_) hread)
      exact hgrows.at?_eq (by simp [hfile]) hapart
  · exact .inr hshared

/-- A worker stays sound when the worker of another document does an operation. -/
theorem Sound.step {progress : Progress} (h : c.Sound tree paths now p progress) (hp : p ∈ paths)
    {path : Path} (hq : q ∈ paths) (hpath : c.OutputOf tree q path) (hne : q ≠ p)
    (hgrows : Grows (· = path) now next) : c.Sound tree paths next p progress := by
  have hstep : ∀ {output text}, c.Holds tree paths now p output text →
      c.OutputOf tree p output → c.Holds tree paths next p output text := fun hholds houtput =>
    hholds.step htree hdiscover hp houtput hq hpath (fun hqp => absurd hqp hne) hgrows
  cases h with
  | waiting => exact .waiting
  | writing hread hclass hsplit hdone =>
    refine .writing hread hclass hsplit fun output source hmem => hstep (hdone _ _ hmem) ?_
    exact outputOf_of_mem hread hclass
      (path_mem_of_mem_effects (hsplit ▸ List.mem_append_left _ hmem))
  | written hkeeps =>
    cases hkeeps with
    | intro hread hclass hinterface himplementation =>
      exact .written (.intro hread hclass (hstep hinterface (.interface hread hclass))
        (hstep himplementation (.implementation hread hclass)))
  | failed e => exact .failed e
  | ended e => exact .ended e

/-- A worker that does an operation stays sound. -/
theorem Sound.perform {pc : PageClass} {effect : Effect} {left : List Effect}
    {outcome : Except WriteFault Unit}
    (h : c.Sound tree paths now p (.writing pc (effect :: left))) (hp : p ∈ paths)
    (hperform : effect.perform (c.machine.refusal? p) now = (next, outcome)) :
    c.Touches tree now p next ∧
      (outcome = .ok () → c.Sound tree paths next p (.writing pc left)) := by
  cases h with
  | @writing bytes _ done _ hread hclass hsplit hdone =>
    have hmem : effect ∈ effects pc c.outputDir := hsplit ▸ by simp
    have hpath := outputOf_of_mem hread hclass (path_mem_of_mem_effects hmem)
    have hnext : (effect.perform (c.machine.refusal? p) now).1 = next := congrArg Prod.fst hperform
    refine ⟨hnext ▸ .operation hmem hpath, ?_⟩
    rintro rfl
    have hleads := leadsTo_of_discover htree hdiscover hp hread
    have hne : (outputPaths pc c.outputDir).1 ≠ (outputPaths pc c.outputDir).2 := by
      rw [outputPaths_of_classOf hleads hclass]
      exact interfacePath_ne_classPath
    have hgrows : Grows (· = effect.path) now next :=
      hnext ▸ Effect.perform_grows rfl (hpath.below hleads).parts_ne_nil
    refine .writing hread hclass (List.append_cons done effect left ▸ hsplit) ?_
    intro output source hwritten
    rcases List.mem_append.mp hwritten with hbefore | hnow
    · have houtput := outputOf_of_mem hread hclass
        (path_mem_of_mem_effects (hsplit ▸ List.mem_append_left _ hbefore))
      exact (hdone _ _ hbefore).step htree hdiscover hp houtput hp hpath
        (fun _ => path_ne_of_written hne hsplit hbefore) hgrows
    · obtain rfl := List.mem_singleton.mp hnow
      exact .inl (Effect.read_of_perform hperform)

/-- The worker whose turn it is stays sound. -/
theorem Kept.work (h : c.Kept tree paths m) (hp : p ∈ paths) :
    c.Touches tree m.tree p (c.work p (m.tree, m.progress p)).1 ∧
      c.Sound tree paths (c.work p (m.tree, m.progress p)).1 p
        (c.work p (m.tree, m.progress p)).2 := by
  have hsound := h.sound p hp
  revert hsound
  cases m.progress p with
  | waiting =>
    intro _
    rw [Config.work]
    cases hread : c.read m.tree p with
    | error e => exact ⟨.nothing, .failed _⟩
    | ok bytes =>
      dsimp only
      cases hclass : c.classOf p bytes with
      | error e =>
        dsimp only
        split
        · exact ⟨.nothing, .ended _⟩
        · exact ⟨.nothing, .failed _⟩
      | ok pc =>
        refine ⟨.nothing, ?_⟩
        dsimp only
        split
        · exact .ended _
        · have hbefore := h.read_eq htree hdiscover hp hread hclass
          exact .writing hbefore hclass (List.nil_append _) (by simp)
  | writing pc left =>
    intro hsound
    cases left with
    | nil => exact ⟨.nothing, .written hsound.keeps⟩
    | cons effect left =>
      rw [Config.work]
      cases hperform : effect.perform (c.machine.refusal? p) m.tree with
      | mk grown outcome =>
        obtain ⟨htouches, hwriting⟩ := hsound.perform htree hdiscover hp hperform
        cases outcome with
        | error fault =>
          refine ⟨htouches, ?_⟩
          cases fault with
          | file output e => exact .failed _
          | unencodable => exact .ended _
        | ok => exact ⟨htouches, hwriting rfl⟩
  | settled outcome => exact fun hsound => ⟨.nothing, hsound⟩
  | ended e => exact fun hsound => ⟨.nothing, hsound⟩

/-- A turn grows the tree at outputs alone. -/
theorem Touches.grows (h : c.Touches tree now p next) (hp : p ∈ paths) :
    Grows (c.Outputs tree paths) now next := by
  cases h with
  | nothing => exact .refl
  | operation hmem hpath =>
    have hout : c.Outputs tree paths _ := ⟨p, hp, hpath⟩
    exact Effect.perform_grows hout (below_of_outputs htree hdiscover hout).parts_ne_nil

/-- The workers of other documents stay sound at a turn. -/
theorem Sound.of_touches {progress : Progress} (h : c.Sound tree paths now p progress)
    (hp : p ∈ paths) (hq : q ∈ paths) (hne : q ≠ p) (htouches : c.Touches tree now q next) :
    c.Sound tree paths next p progress := by
  cases htouches with
  | nothing => exact h
  | operation hmem hpath =>
    refine h.step htree hdiscover hp hq hpath hne (Effect.perform_grows rfl ?_)
    exact (below_of_outputs htree hdiscover ⟨q, hq, hpath⟩).parts_ne_nil

/-- **The step**: a turn of any worker keeps what holds at every moment. -/
theorem Kept.turn (h : c.Kept tree paths m) (hp : p ∈ paths) : c.Kept tree paths (c.turn m p) := by
  obtain ⟨htouches, hsound⟩ := h.work htree hdiscover hp
  refine ⟨h.grows.trans (htouches.grows htree hdiscover hp), ?_, ?_⟩
  · intro place bytes hfile
    exact (htouches.file hfile).elim (h.files place bytes) .inr
  · intro q hq
    by_cases hqp : q = p
    · subst hqp
      rw [turn_tree, turn_progress_self]
      exact hsound
    · rw [turn_tree, turn_progress_of_ne m hqp]
      exact (h.sound q hq).of_touches htree hdiscover hq hp (Ne.symm hqp) htouches

/-- **The run**: every schedule of the documents keeps it. -/
theorem Kept.interleave {schedule : List Path} (h : c.Kept tree paths m)
    (hschedule : schedule ⊆ paths) : c.Kept tree paths (c.interleave m schedule) := by
  induction schedule generalizing m with
  | nil => exact h
  | cons p schedule ih =>
    rw [List.cons_subset] at hschedule
    exact ih (h.turn htree hdiscover hschedule.1) hschedule.2

/-- **A document that was compiled keeps its files**, whatever the schedule. -/
theorem keeps_of_settled {schedule : List Path} (hschedule : schedule ⊆ paths) (hp : p ∈ paths)
    (h : (c.interleave (.start tree) schedule).progress p = .settled (.ok files)) :
    c.Keeps tree paths (c.interleave (.start tree) schedule).tree p files := by
  have hsound := (Kept.start.interleave htree hdiscover hschedule).sound p hp
  rw [h] at hsound
  cases hsound with
  | written hkeeps => exact hkeeps

/-- Documents that are compiled one after the other, in any order, keep their files. -/
theorem keeps_of_compileAll {order : List Path} (horder : order.Perm paths) {last : FileTree}
    {results : List BatchResult} (h : c.compileAll tree order = .ok (last, results)) :
    ∀ r ∈ results, r.succeeded → c.Keeps tree paths last r.source r.files := by
  intro r hr hsucceeded
  have hdistinct : order.Nodup := horder.nodup_iff.mpr (discover_ordered hdiscover).1
  obtain ⟨rfl, hsettled, -⟩ := interleave_compileAll (m := .start tree) hdistinct (fun _ _ => rfl) h
  have hschedule : order.flatMap (List.replicate turns) ⊆ paths := by
    intro p hp
    obtain ⟨q, hq, hp⟩ := List.mem_flatMap.mp hp
    rw [List.eq_of_mem_replicate hp]
    exact horder.subset hq
  have hsource : r.source ∈ paths :=
    horder.subset (compileAll_sources h ▸ List.mem_map_of_mem hr)
  refine keeps_of_settled htree hdiscover hschedule hsource ?_
  rw [hsettled r hr]
  cases houtcome : r.outcome with
  | ok files => rw [BatchResult.files, houtcome]
  | error e => exact absurd hsucceeded (by simp [BatchResult.succeeded, houtcome])

end Run

/-- **No output of a document is lost to a document that does not share it.** Under every schedule of the
workers, and when documents are compiled one after the other in any order, the files of a document
that was compiled hold its interface and its class, but for those that another document has as
outputs. Documents that are translated share an output exactly if they meet: they agree on name and
directory, or the one has those of the class of the other. -/
theorem run_keeps (htree : tree.WellFormed) (hdiscover : c.discover tree = .ok paths) :
    (∀ schedule, schedule ⊆ paths → ∀ p ∈ paths, ∀ files,
      (c.interleave (.start tree) schedule).progress p = .settled (.ok files) →
        c.Keeps tree paths (c.interleave (.start tree) schedule).tree p files) ∧
    (∀ order, order.Perm paths → ∀ last results, c.compileAll tree order = .ok (last, results) →
      ∀ r ∈ results, r.succeeded → c.Keeps tree paths last r.source r.files) ∧
    (∀ summary, c.run tree = .ok summary →
      ∀ r ∈ summary.results, r.succeeded → c.Keeps tree paths summary.tree r.source r.files) ∧
    ∀ p ∈ paths, ∀ q ∈ paths, (∃ output, c.OutputOf tree p output) →
      (∃ output, c.OutputOf tree q output) →
        ((∃ output, c.OutputOf tree p output ∧ c.OutputOf tree q output) ↔ c.Meet p q) := by
  refine ⟨fun schedule hschedule p hp files h => ?_, fun order horder last results h => ?_,
    fun summary h => ?_, fun p hp q hq hpout hqout => ?_⟩
  · exact keeps_of_settled htree hdiscover hschedule hp h
  · exact keeps_of_compileAll htree hdiscover horder h
  · obtain ⟨paths', hdiscover', hcompiled⟩ := run_eq_ok.mp h
    obtain rfl := Except.ok.inj (hdiscover.symm.trans hdiscover')
    exact keeps_of_compileAll htree hdiscover (List.Perm.refl _) hcompiled
  · have hleads : ∀ p ∈ paths, (∃ output, c.OutputOf tree p output) → c.LeadsTo p := by
      rintro p hp ⟨output, houtput⟩
      obtain ⟨bytes, hread⟩ := houtput.exists_bytes
      exact leadsTo_of_discover htree hdiscover hp hread
    exact share_iff_meet (hleads p hp hpout) (hleads q hq hqout) hpout hqout

theorem twoRun_identity : twoRun.identity firstPath = ("A", "pageobjects") ∧
    twoRun.identity secondPath = ("B", "pageobjects") := by
  constructor <;> decide

/-- Two documents of different names, each of which keeps its files. -/
theorem twoRun_keeps : (twoDocuments [0x7b, 0x7d]).WellFormed ∧
    twoRun.discover (twoDocuments [0x7b, 0x7d]) = .ok [firstPath, secondPath] ∧
    ∃ summary, twoRun.run (twoDocuments [0x7b, 0x7d]) = .ok summary ∧
      summary.results.map (·.succeeded) = [true, true] ∧
      ∀ r ∈ summary.results,
        twoRun.Exact (twoDocuments [0x7b, 0x7d]) summary.tree r.source r.files := by
  have htree := twoDocuments_wellFormed [0x7b, 0x7d]
  have hdiscover := @twoRun_discover [0x7b, 0x7d] (by decide +kernel)
  have hsucceeded : (twoRun.compileAll (twoDocuments [0x7b, 0x7d]) [firstPath, secondPath]).map
      (fun compiled => compiled.2.map (·.succeeded)) = .ok [true, true] := by
    decide +kernel
  obtain ⟨⟨last, results⟩, hcompiled, hresults⟩ := map_eq_ok.mp hsucceeded
  have hrun : twoRun.run (twoDocuments [0x7b, 0x7d]) = .ok ⟨results, last⟩ :=
    run_eq_ok.mpr ⟨_, hdiscover, hcompiled⟩
  obtain ⟨-, -, hkeeps, hmeet⟩ := run_keeps htree hdiscover
  refine ⟨htree, hdiscover, _, hrun, hresults, fun r hr => ?_⟩
  have hsource : r.source ∈ [firstPath, secondPath] :=
    compileAll_sources hcompiled ▸ List.mem_map_of_mem hr
  have hok : r.succeeded := by
    have hmem : r.succeeded ∈ [true, true] := hresults ▸ List.mem_map_of_mem hr
    simpa using hmem
  have hapart : ∀ p ∈ [firstPath, secondPath], ∀ q ∈ [firstPath, secondPath], q ≠ p →
      ¬ twoRun.Meet p q := by
    intro p hp q hq hne hmeet
    have hnames := hmeet.names
    simp only [List.mem_cons, List.not_mem_nil, or_false] at hp hq
    rcases hp with rfl | rfl <;> rcases hq with rfl | rfl
    · exact hne rfl
    · rw [twoRun_identity.1, twoRun_identity.2] at hnames
      exact absurd hnames (by decide)
    · rw [twoRun_identity.1, twoRun_identity.2] at hnames
      exact absurd hnames (by decide)
    · exact hne rfl
  refine (hkeeps _ hrun r hr hok).exact fun q hq hne => ?_
  rintro ⟨output, hp, hq'⟩
  exact hapart _ hsource q hq hne
    ((hmeet _ hsource q hq ⟨output, hp⟩ ⟨output, hq'⟩).mp ⟨output, hp, hq'⟩)

/-! ## Two documents of one name -/

/-- A document whose name has a hyphen between its words. -/
def hyphenPath : Path := ⟨"", ["in", "a-b.utam.json"]⟩

/-- A document whose name has an underscore between the same words. -/
def underscorePath : Path := ⟨"", ["in", "a_b.utam.json"]⟩

/-- A page object with nothing but a description. -/
def described : List UInt8 :=
  "\x7b\"description\":\"x\"\x7d".toList.map fun letter => letter.toNat.toUInt8

/-- An empty page object and one with a description, of the same words. -/
def twoNames : FileTree :=
  [(⟨"", ["in"]⟩, .directory), (hyphenPath, .file [0x7b, 0x7d]), (underscorePath, .file described)]

theorem twoNames_identity : twoRun.identity hyphenPath = ("AB", "pageobjects") ∧
    twoRun.identity underscorePath = ("AB", "pageobjects") := by
  constructor <;> decide

/-- The page class of the second document is that of the first with the description. -/
theorem twoNames_classOf : ∃ pc : PageClass,
    twoRun.classOf hyphenPath [0x7b, 0x7d] = .ok { pc with description := none } ∧
      twoRun.classOf underscorePath described = .ok { pc with description := some "x" } := by
  have hnone : (PageClass.ofSource (.bytes [0x7b, 0x7d]) "AB" "pageobjects").map
      (fun pc => { pc with description := none }) =
        PageClass.ofSource (.bytes [0x7b, 0x7d]) "AB" "pageobjects" := by
    decide +kernel
  have hsome : (PageClass.ofSource (.bytes [0x7b, 0x7d]) "AB" "pageobjects").map
      (fun pc => { pc with description := some "x" }) =
        PageClass.ofSource (.bytes described) "AB" "pageobjects" := by
    decide +kernel
  have hok : (PageClass.ofSource (.bytes [0x7b, 0x7d]) "AB" "pageobjects").map (fun _ => ()) =
      .ok () := by
    decide +kernel
  obtain ⟨pc, hpc, -⟩ := map_eq_ok.mp hok
  have hlevels : twoRun.machine.levels = Json.usualLevels := rfl
  rw [classOf, classOf, twoNames_identity.1, twoNames_identity.2, hlevels, ← hnone, ← hsome, hpc]
  exact ⟨pc, rfl, rfl⟩

/-- **A file of one of two documents is lost**: both are compiled into the same files, which cannot hold
the sources of both. -/
theorem twoNames_lost : ∃ summary, twoRun.run twoNames = .ok summary ∧
    summary.results.map (·.source) = [hyphenPath, underscorePath] ∧
    (∀ r ∈ summary.results, r.succeeded) ∧
    ¬ ∀ r ∈ summary.results, twoRun.Exact twoNames summary.tree r.source r.files := by
  have hdiscover : twoRun.discover twoNames = .ok [hyphenPath, underscorePath] :=
    twoRun_discover_of_find (by decide +kernel) (List.mergeSort_of_pairwise (by decide))
  have hsucceeded : (twoRun.compileAll twoNames [hyphenPath, underscorePath]).map
      (fun compiled => compiled.2.map (·.succeeded)) = .ok [true, true] := by
    decide +kernel
  obtain ⟨⟨last, results⟩, hcompiled, hresults⟩ := map_eq_ok.mp hsucceeded
  have hsources := compileAll_sources hcompiled
  refine ⟨⟨results, last⟩, run_eq_ok.mpr ⟨_, hdiscover, hcompiled⟩, hsources, ?_, ?_⟩
  · intro r hr
    have hmem : r.succeeded ∈ [true, true] := hresults ▸ List.mem_map_of_mem hr
    simpa using hmem
  · intro hexact
    have hexact' : ∀ p ∈ [hyphenPath, underscorePath],
        ∃ files, twoRun.Exact twoNames last p files := by
      rw [← hsources]
      exact List.forall_mem_map.mpr fun r hr => ⟨r.files, hexact r hr⟩
    obtain ⟨pc, hhyphen, hunderscore⟩ := twoNames_classOf
    obtain ⟨files, bytes, pc', hread, hclass, -, hinterface, -⟩ := hexact' hyphenPath (by simp)
    obtain ⟨files', bytes', pc'', hread', hclass', -, hinterface', -⟩ :=
      hexact' underscorePath (by simp)
    have hbytes : twoRun.read twoNames hyphenPath = .ok [0x7b, 0x7d] := rfl
    have hbytes' : twoRun.read twoNames underscorePath = .ok described := rfl
    obtain rfl := Except.ok.inj (hread.symm.trans hbytes)
    obtain rfl := Except.ok.inj (hread'.symm.trans hbytes')
    obtain rfl := Except.ok.inj (hclass.symm.trans hhyphen)
    obtain rfl := Except.ok.inj (hclass'.symm.trans hunderscore)
    have hsame := toList_toUTF8_inj.mp (Except.ok.inj (hinterface.symm.trans hinterface'))
    have hlength := Java.length_interfaceSource_description pc (by decide : "x" ≠ "")
    rw [hsame] at hlength
    exact absurd hlength (Nat.lt_irrefl _)

end Config
end PageObjects
