import Mathlib.Logic.Function.Iterate
import PageObjects.Proofs.Batch.Document

/-!
# Workers that take turns

A run has a worker for each document. A worker reads and translates its document at its first turn,
then does one operation on the tree at each turn: for the interface and for the class it makes the
directories and writes the file. Between two turns of one worker the others may have any number of
theirs. A schedule says whose turn it is. The Runner translates page objects in parallel, and each
worker owns its translator (specification, 5). What workers share is the tree.

* `Effect`, `effects`: the operations of a worker, and `writeClass_eq`: that they are those by which a
  page class is written.
* `Config.interleave`: what becomes of a tree and of the documents under a schedule.
* `Config.iterate_work`: **a worker that nobody interrupts compiles its document**.
* `Config.interleave_compileAll`: documents compiled one after the other are a schedule.
-/

namespace PageObjects

open FileTree

/-! ## Operations -/

/-- An operation of a worker on the tree. -/
inductive Effect where
  | makeWay (path : Path)
  | write (path : Path) (source : String)

namespace Effect

/-- The file that the operation is for. -/
def path : Effect → Path
  | makeWay path => path
  | write path _ => path

/-- What the operation does where the machine refuses some. The tree that is left by a failure is given with
the fault. -/
def perform (refuses : Path → Option Refusal) (tree : FileTree) : Effect → FileTree × Except WriteFault Unit
  | makeWay path => PageObjects.makeWay (refuses path) tree path
  | write path source => writeText (refuses path) tree path source

/-- Operations one after the other, up to the first that fails. -/
def performAll (refuses : Path → Option Refusal) :
    FileTree → List Effect → FileTree × Except WriteFault Unit
  | tree, [] => (tree, .ok ())
  | tree, effect :: rest =>
    match effect.perform refuses tree with
    | (left, .error e) => (left, .error e)
    | (left, .ok ()) => performAll refuses left rest

variable {refuses : Path → Option Refusal} {tree : FileTree} {effect : Effect}

/-- Making the way to a file opens the stops above it. -/
theorem opens_makeWay (refuses : Path → Option Refusal) (tree : FileTree) (path : Path) :
    Opens path.parent.stops tree (perform refuses tree (.makeWay path)).1 := by
  rw [perform]
  obtain ⟨made, hopens, ⟨e, h⟩ | ⟨-, -, h⟩⟩ := makeWay_cases (refuses path) tree path <;>
    rw [h] <;> exact hopens

/-- An operation grows the tree at its file alone. -/
theorem perform_grows {outputs : Path → Prop} (hpath : outputs effect.path)
    (hparts : effect.path.parts ≠ []) : Grows outputs tree (effect.perform refuses tree).1 := by
  cases effect with
  | makeWay path =>
    exact .of_opens hpath (Path.way_eq_stops_parent hparts ▸ opens_makeWay refuses tree path)
  | write path source =>
    rw [perform]
    obtain ⟨e, h⟩ | ⟨written, hwritten, -, h⟩ := writeText_cases (refuses path) tree path source
    · rw [h]
      exact .refl
    · rw [h]
      exact .of_write hpath hwritten

/-- A file that stands after an operation was there before, or holds a beginning of what the operation
writes. -/
theorem perform_file {place : Path} {bytes : List UInt8}
    (h : (effect.perform refuses tree).1.at? place = some (.file bytes)) :
    tree.at? place = some (.file bytes) ∨
      ∃ source, effect = .write effect.path source ∧ bytes <+: source.toUTF8.toList := by
  cases effect with
  | makeWay path =>
    rcases opens_makeWay refuses tree path place with hsame | ⟨-, -, hdirectory⟩
    · exact .inl (hsame ▸ h)
    · exact absurd (hdirectory.symm.trans h) (by simp)
  | write path source =>
    rw [perform] at h
    obtain ⟨e, htext⟩ | ⟨written, hwritten, -, htext⟩ := writeText_cases (refuses path) tree path source
    · rw [htext] at h
      exact .inl h
    · rw [htext] at h
      obtain ⟨-, -, -, rfl⟩ := write_eq_ok.mp hwritten
      rw [at?_put] at h
      split at h
      · obtain rfl := Node.file.inj (Option.some.inj h)
        exact .inr ⟨source, rfl, Refusal.left_prefix _ _⟩
      · exact .inl h

/-- What an operation wrote to the end is read. -/
theorem read_of_perform {path : Path} {source : String} {grown : FileTree}
    (h : perform refuses tree (.write path source) = (grown, .ok ())) :
    grown.read path = .ok source.toUTF8.toList := by
  rw [perform] at h
  obtain ⟨e, htext⟩ | ⟨written, hwritten, -, htext⟩ := writeText_cases (refuses path) tree path source
  · exact absurd (htext.symm.trans h) (by simp)
  · obtain ⟨rfl, hreported⟩ := Prod.mk.inj (htext.symm.trans h)
    rw [Refusal.left_of_reported hreported] at hwritten
    exact read_of_write hwritten

end Effect

open Effect

/-- The operations for one file. -/
def fileEffects (path : Path) (source : String) : List Effect := [.makeWay path, .write path source]

/-- The operations for a page class. -/
def effects (pc : PageClass) (directory : Path) : List Effect :=
  fileEffects (outputPaths pc directory).1 (Java.interfaceSource pc) ++
    fileEffects (outputPaths pc directory).2 (Java.classSource pc)

theorem length_effects (pc : PageClass) (directory : Path) : (effects pc directory).length = 4 := rfl

/-- The files of a page class. -/
def outputFiles (pc : PageClass) (directory : Path) : List Path :=
  [(outputPaths pc directory).1, (outputPaths pc directory).2]

theorem performAll_append (refuses : Path → Option Refusal) (tree : FileTree)
    (front back : List Effect) : performAll refuses tree (front ++ back) =
      match performAll refuses tree front with
      | (left, .error e) => (left, .error e)
      | (left, .ok ()) => performAll refuses left back := by
  induction front generalizing tree with
  | nil => rfl
  | cons effect front ih =>
    rw [List.cons_append, performAll, performAll]
    cases effect.perform refuses tree with
    | mk left outcome =>
      cases outcome with
      | error e => rfl
      | ok => exact ih left

theorem writeSource_eq (refuses : Path → Option Refusal) (tree : FileTree) (path : Path)
    (source : String) : writeSource (refuses path) tree path source =
      performAll refuses tree (fileEffects path source) := by
  simp only [writeSource, fileEffects, performAll, perform]
  cases PageObjects.makeWay (refuses path) tree path with
  | mk made outcome =>
    cases outcome with
    | error e => rfl
    | ok =>
      dsimp only
      cases writeText (refuses path) made path source with
      | mk written outcome => cases outcome <;> rfl

/-- **A page class is written by its operations, one after the other.** -/
theorem writeClass_eq (refuses : Path → Option Refusal) (tree : FileTree) (pc : PageClass)
    (directory : Path) : writeClass refuses tree pc directory =
      ((performAll refuses tree (effects pc directory)).1,
        (performAll refuses tree (effects pc directory)).2.map fun _ => outputFiles pc directory) := by
  simp only [writeClass, effects, performAll_append, ← writeSource_eq]
  cases writeSource (refuses (outputPaths pc directory).1) tree (outputPaths pc directory).1
    (Java.interfaceSource pc) with
  | mk between outcome =>
    cases outcome with
    | error e => rfl
    | ok =>
      dsimp only
      cases writeSource (refuses (outputPaths pc directory).2) between (outputPaths pc directory).2
        (Java.classSource pc) with
      | mk written outcome => cases outcome <;> rfl

section Effects

variable {pc : PageClass} {directory path : Path} {source : String} {effect : Effect}

/-- Every operation is for one of the two files. -/
theorem path_mem_of_mem_effects (h : effect ∈ effects pc directory) :
    effect.path ∈ outputFiles pc directory := by
  simp only [effects, fileEffects, List.cons_append, List.nil_append, List.mem_cons,
    List.not_mem_nil, or_false] at h
  rcases h with rfl | rfl | rfl | rfl <;> simp [Effect.path, outputFiles]

/-- What is written is the interface or the class. -/
theorem write_mem_effects (h : .write path source ∈ effects pc directory) :
    (path = (outputPaths pc directory).1 ∧ source = Java.interfaceSource pc) ∨
      (path = (outputPaths pc directory).2 ∧ source = Java.classSource pc) := by
  simpa [effects, fileEffects] using h

/-- Once a file is written, the operations that are left are for the other one. -/
theorem path_ne_of_written {done left : List Effect}
    (hne : (outputPaths pc directory).1 ≠ (outputPaths pc directory).2)
    (hsplit : done ++ effect :: left = effects pc directory) (hwritten : .write path source ∈ done) :
    effect.path ≠ path := by
  rw [effects, fileEffects, fileEffects, List.cons_append, List.cons_append, List.nil_append] at hsplit
  match done, hsplit with
  | [], _ => exact absurd hwritten List.not_mem_nil
  | [_], hsplit =>
    obtain ⟨rfl, -⟩ := List.cons.inj hsplit
    exact absurd hwritten (by simp)
  | [_, _], hsplit =>
    simp only [List.cons_append, List.nil_append, List.cons.injEq] at hsplit
    obtain ⟨rfl, rfl, rfl, -⟩ := hsplit
    have hfirst : path = (outputPaths pc directory).1 ∧ source = Java.interfaceSource pc := by
      simpa using hwritten
    exact hfirst.1 ▸ hne.symm
  | [_, _, _], hsplit =>
    simp only [List.cons_append, List.nil_append, List.cons.injEq] at hsplit
    obtain ⟨rfl, rfl, rfl, rfl, -⟩ := hsplit
    have hfirst : path = (outputPaths pc directory).1 ∧ source = Java.interfaceSource pc := by
      simpa using hwritten
    exact hfirst.1 ▸ hne.symm
  | _ :: _ :: _ :: _ :: _, hsplit => exact absurd hsplit (by simp)

end Effects

/-! ## Turns -/

/-- How far a worker has come. -/
inductive Progress where
  | waiting
  | writing (pc : PageClass) (left : List Effect)
  | settled (outcome : Except BatchError (List Path))
  | ended (e : RunError)

/-- A worker whose writing fails is settled with the error, or ends the run. -/
def Progress.ofFault : WriteFault → Progress
  | .file output e => .settled (.error (.write output e))
  | .unencodable => .ended .unencodable

/-- What has become of a worker that has done its operations. -/
def Progress.ofWritten (files : List Path) : Except WriteFault Unit → Progress
  | .ok () => .settled (.ok files)
  | .error fault => .ofFault fault

/-- A run at one moment: the tree, and how far the worker of each document has come. -/
structure Moment where
  tree : FileTree
  progress : Path → Progress

/-- The moment before any worker has a turn. -/
def Moment.start (tree : FileTree) : Moment := ⟨tree, fun _ => .waiting⟩

namespace Config

variable {c : Config} {tree : FileTree} {p : Path}

/-- One turn of the worker of a document. -/
def work (c : Config) (p : Path) : FileTree × Progress → FileTree × Progress
  | (tree, .waiting) =>
    match c.read tree p with
    | .error e => (tree, .settled (.error (.read e)))
    | .ok bytes =>
      match c.classOf p bytes with
      | .error e =>
        match e.cause.limit? with
        | some limit => (tree, .ended (.beyond limit))
        | none => (tree, .settled (.error (.compile e)))
      | .ok pc =>
        (tree, if (outputPaths pc c.outputDir).1.hasNull then .ended .nullInPath
          else .writing pc (effects pc c.outputDir))
  | (tree, .writing pc []) => (tree, .settled (.ok (outputFiles pc c.outputDir)))
  | (tree, .writing pc (effect :: left)) =>
    match effect.perform (c.machine.refusal? p) tree with
    | (grown, .error fault) => (grown, .ofFault fault)
    | (grown, .ok ()) => (grown, .writing pc left)
  | (tree, .settled outcome) => (tree, .settled outcome)
  | (tree, .ended e) => (tree, .ended e)

/-- The moment after a turn of the worker of a document. -/
def turn (c : Config) (m : Moment) (p : Path) : Moment :=
  ⟨(c.work p (m.tree, m.progress p)).1,
    Function.update m.progress p (c.work p (m.tree, m.progress p)).2⟩

theorem turn_tree (m : Moment) (p : Path) :
    (c.turn m p).tree = (c.work p (m.tree, m.progress p)).1 := rfl

theorem turn_progress_self (m : Moment) (p : Path) :
    (c.turn m p).progress p = (c.work p (m.tree, m.progress p)).2 := Function.update_self ..

theorem turn_progress_of_ne (m : Moment) {p q : Path} (h : q ≠ p) :
    (c.turn m p).progress q = m.progress q := Function.update_of_ne h ..

/-- The moment after the turns of a schedule. -/
def interleave (c : Config) (m : Moment) (schedule : List Path) : Moment := schedule.foldl c.turn m

theorem interleave_append (m : Moment) (front back : List Path) :
    c.interleave m (front ++ back) = c.interleave (c.interleave m front) back := List.foldl_append

/-- Turns of one worker alone. -/
theorem interleave_replicate (m : Moment) (p : Path) (n : Nat) :
    c.interleave m (List.replicate n p) = ⟨((c.work p)^[n] (m.tree, m.progress p)).1,
      Function.update m.progress p ((c.work p)^[n] (m.tree, m.progress p)).2⟩ := by
  induction n generalizing m with
  | zero => cases m; simp [interleave]
  | succ n ih =>
    rw [List.replicate_succ, interleave, List.foldl_cons, ← interleave, ih, turn_tree,
      turn_progress_self, Function.iterate_succ_apply, turn, Function.update_idem]

/-! ## Workers that nobody interrupts -/

/-- The turns that are enough for a document: one to read and translate it, one for each operation, and
one for the result. -/
def turns : Nat := 6

theorem iterate_work_settled (n : Nat) {outcome : Except BatchError (List Path)} :
    (c.work p)^[n] (tree, .settled outcome) = (tree, .settled outcome) :=
  Function.iterate_fixed rfl n

theorem iterate_work_ended (n : Nat) {e : RunError} :
    (c.work p)^[n] (tree, .ended e) = (tree, .ended e) :=
  Function.iterate_fixed rfl n

theorem iterate_work_ofFault (n : Nat) {fault : WriteFault} :
    (c.work p)^[n] (tree, .ofFault fault) = (tree, .ofFault fault) := by
  cases fault with
  | file output e => exact iterate_work_settled n
  | unencodable => exact iterate_work_ended n

/-- A worker that writes does its operations one after the other. -/
theorem iterate_work_writing {pc : PageClass} {left : List Effect} {n : Nat}
    (hn : left.length < n) : (c.work p)^[n] (tree, .writing pc left) =
      ((performAll (c.machine.refusal? p) tree left).1,
        .ofWritten (outputFiles pc c.outputDir) (performAll (c.machine.refusal? p) tree left).2) := by
  induction left generalizing tree n with
  | nil =>
    obtain ⟨n, rfl⟩ := Nat.exists_eq_add_of_lt hn
    rw [Function.iterate_succ_apply]
    exact iterate_work_settled _
  | cons effect left ih =>
    cases n with
    | zero => exact absurd hn (by simp)
    | succ n =>
      rw [Function.iterate_succ_apply, work, performAll]
      cases effect.perform (c.machine.refusal? p) tree with
      | mk grown outcome =>
        cases outcome with
        | error fault => exact iterate_work_ofFault n
        | ok => exact ih (by simpa using hn)

/-- **A worker that nobody interrupts compiles its document**, or ends the run as the document does. -/
theorem iterate_work :
    (∀ grown r, c.compileFile tree p = .ok (grown, r) →
      (c.work p)^[turns] (tree, .waiting) = (grown, .settled r.outcome)) ∧
    ∀ e, c.compileFile tree p = .error e →
      ((c.work p)^[turns] (tree, .waiting)).2 = .ended e := by
  rw [turns, Function.iterate_succ_apply, work, compileFile]
  dsimp only
  cases c.read tree p with
  | error e =>
    rw [iterate_work_settled]
    simp
  | ok bytes =>
    dsimp only
    cases c.classOf p bytes with
    | error e =>
      dsimp only
      cases e.cause.limit? with
      | some limit =>
        rw [iterate_work_ended]
        simp
      | none =>
        rw [iterate_work_settled]
        simp
    | ok pc =>
      dsimp only
      by_cases hnull : (outputPaths pc c.outputDir).1.hasNull
      · rw [if_pos hnull, if_pos hnull, iterate_work_ended]
        simp
      · rw [if_neg hnull, if_neg hnull, iterate_work_writing (by rw [length_effects]; decide),
          writeClass_eq]
        cases performAll (c.machine.refusal? p) tree (effects pc c.outputDir) with
        | mk left outcome =>
          cases outcome with
          | ok => simp [Progress.ofWritten, Except.map]
          | error fault => cases fault <;> simp [Progress.ofWritten, Progress.ofFault, Except.map]

/-- **Documents that are compiled one after the other are compiled by a schedule**: that of their
workers, each without interruption. -/
theorem interleave_compileAll {order : List Path} {m : Moment} {last : FileTree}
    {results : List BatchResult} (hdistinct : order.Nodup)
    (hwaiting : ∀ p ∈ order, m.progress p = .waiting)
    (h : c.compileAll m.tree order = .ok (last, results)) :
    (c.interleave m (order.flatMap (List.replicate turns))).tree = last ∧
      (∀ r ∈ results,
        (c.interleave m (order.flatMap (List.replicate turns))).progress r.source =
          .settled r.outcome) ∧
      ∀ q ∉ order,
        (c.interleave m (order.flatMap (List.replicate turns))).progress q = m.progress q := by
  induction order generalizing m results with
  | nil =>
    obtain ⟨rfl, rfl⟩ := Prod.mk.inj (Except.ok.inj h)
    exact ⟨rfl, by simp, fun _ _ => rfl⟩
  | cons p order ih =>
    obtain ⟨next, r, rest, hfile, hrest, rfl⟩ := compileAll_cons_eq_ok.mp h
    rw [List.nodup_cons] at hdistinct
    rw [List.forall_mem_cons] at hwaiting
    have hsource : r.source = p := by
      obtain ⟨outcome, -, rfl⟩ := compileFile_eq_ok.mp hfile
      rfl
    have hone : c.interleave m (List.replicate turns p) =
        ⟨next, Function.update m.progress p (.settled r.outcome)⟩ := by
      rw [interleave_replicate, hwaiting.1, iterate_work.1 _ _ hfile]
    have hothers : ∀ q ∈ order,
        Function.update m.progress p (.settled r.outcome) q = .waiting := by
      intro q hq
      rw [Function.update_of_ne (ne_of_mem_of_not_mem hq hdistinct.1), hwaiting.2 q hq]
    obtain ⟨htree, hsettled, hkept⟩ :=
      ih (m := ⟨next, Function.update m.progress p (.settled r.outcome)⟩) hdistinct.2 hothers hrest
    rw [List.flatMap_cons, interleave_append, hone]
    refine ⟨htree, List.forall_mem_cons.mpr ⟨?_, hsettled⟩, fun q hq => ?_⟩
    · rw [hsource, hkept p hdistinct.1]
      exact Function.update_self ..
    · rw [List.mem_cons, not_or] at hq
      rw [hkept q hq.2]
      exact Function.update_of_ne hq.1 ..

end Config
end PageObjects
