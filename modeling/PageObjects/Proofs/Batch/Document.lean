import PageObjects.Proofs.Batch.Writing
import PageObjects.Proofs.Json.Limits

/-!
# What becomes of a document

A document is read, translated and written, or it ends the run. What becomes of it depends on the
tree only through its bytes and through what the tree admits of its two files, and the tree grows at
those files alone. The machine answers for a document in every tree alike.

* `Config.Escapes`: the errors that are not kept in the result of a document, and end the run.
* `Config.compileFile_eq_ok`, `Config.compileFile_eq_error`: what becomes of one document.
* `Config.Settles.grows`, `Config.Settles.alike`: what it changes, and what it depends on.
* `Config.compileAll_eq_error`: documents end without results if one of them ends the run.
-/

namespace PageObjects.Config

open FileTree

variable {c : Config} {tree other grown : FileTree} {p : Path} {r : BatchResult}

/-! ## One document -/

/-- The errors of a document that end the run: the reader meets a limit of its own, before any fault of
form; the output path holds a null character; or the machine cannot encode a text of the class once it
has opened the file for it. -/
inductive Escapes (c : Config) (tree : FileTree) (p : Path) : RunError → Prop where
  | beyond {bytes : List UInt8} {text : String} {limit : ReaderLimit}
      (hread : c.read tree p = .ok bytes) (htext : decodeDocument bytes = .ok text)
      (hvalue : Json.Parser.document text.toList c.machine.levels = .error (.beyond limit)) :
      Escapes c tree p (.beyond limit)
  | nullInPath {bytes : List UInt8} {pc : PageClass} (hread : c.read tree p = .ok bytes)
      (hclass : c.classOf p bytes = .ok pc) (hnull : (outputPaths pc c.outputDir).1.hasNull) :
      Escapes c tree p .nullInPath
  | unencodable {bytes : List UInt8} {pc : PageClass} (hread : c.read tree p = .ok bytes)
      (hclass : c.classOf p bytes = .ok pc) (hnull : ¬ (outputPaths pc c.outputDir).1.hasNull)
      (hgarbles : Garbles (c.machine.refusal? p) tree pc c.outputDir) :
      Escapes c tree p .unencodable

/-- The tree and the outcome that a document leads to when it does not end the run. -/
inductive Settles (c : Config) (tree : FileTree) (p : Path) :
    FileTree → Except BatchError (List Path) → Prop where
  | unread {e : FileError} (hread : c.read tree p = .error e) :
      Settles c tree p tree (.error (.read e))
  | refused {bytes : List UInt8} {e : CompileError} (hread : c.read tree p = .ok bytes)
      (hclass : c.classOf p bytes = .error e) (hcause : e.cause.limit? = none) :
      Settles c tree p tree (.error (.compile e))
  | unwritten {bytes : List UInt8} {pc : PageClass} {left : FileTree} {output : Path} {e : FileError}
      (hread : c.read tree p = .ok bytes) (hclass : c.classOf p bytes = .ok pc)
      (hnull : ¬ (outputPaths pc c.outputDir).1.hasNull)
      (hwrite : writeClass (c.machine.refusal? p) tree pc c.outputDir =
        (left, .error (.file output e))) :
      Settles c tree p left (.error (.write output e))
  | written {bytes : List UInt8} {pc : PageClass} {left : FileTree} {files : List Path}
      (hread : c.read tree p = .ok bytes) (hclass : c.classOf p bytes = .ok pc)
      (hnull : ¬ (outputPaths pc c.outputDir).1.hasNull)
      (hwrite : writeClass (c.machine.refusal? p) tree pc c.outputDir = (left, .ok files)) :
      Settles c tree p left (.ok files)

/-- What becomes of one document: it settles and its outcome is its result, or an error escapes. -/
theorem compileFile_cases (c : Config) (tree : FileTree) (p : Path) :
    (∃ grown outcome, c.Settles tree p grown outcome ∧
      c.compileFile tree p = .ok (grown, ⟨p, (c.identity p).1, (c.identity p).2, outcome⟩)) ∨
    ∃ e, c.Escapes tree p e ∧ c.compileFile tree p = .error e := by
  rw [compileFile]
  dsimp only
  cases hread : c.read tree p with
  | error e => exact .inl ⟨_, _, .unread hread, rfl⟩
  | ok bytes =>
    dsimp only
    cases hclass : c.classOf p bytes with
    | error e =>
      dsimp only
      cases hcause : e.cause.limit? with
      | none => exact .inl ⟨_, _, .refused hread hclass hcause, rfl⟩
      | some limit =>
        obtain ⟨text, htext, hvalue⟩ :=
          PageClass.load_beyond.mp (PageClass.ofSource_beyond.mp ⟨e, hclass, hcause⟩)
        exact .inr ⟨_, .beyond hread htext hvalue, rfl⟩
    | ok pc =>
      dsimp only
      by_cases hnull : (outputPaths pc c.outputDir).1.hasNull
      · rw [if_pos hnull]
        exact .inr ⟨_, .nullInPath hread hclass hnull, rfl⟩
      · rw [if_neg hnull]
        cases hwrite : writeClass (c.machine.refusal? p) tree pc c.outputDir with
        | mk left outcome =>
          cases outcome with
          | ok files => exact .inl ⟨left, _, .written hread hclass hnull hwrite, rfl⟩
          | error fault =>
            cases fault with
            | file output e => exact .inl ⟨left, _, .unwritten hread hclass hnull hwrite, rfl⟩
            | unencodable =>
              refine .inr ⟨_, .unencodable hread hclass hnull ?_, rfl⟩
              rw [← writeClass_unencodable, hwrite]

theorem Settles.compileFile_eq {outcome : Except BatchError (List Path)}
    (h : c.Settles tree p grown outcome) :
    c.compileFile tree p = .ok (grown, ⟨p, (c.identity p).1, (c.identity p).2, outcome⟩) := by
  cases h with
  | unread hread => simp only [compileFile, hread]
  | refused hread hclass hcause => simp only [compileFile, hread, hclass, hcause]
  | unwritten hread hclass hnull hwrite | written hread hclass hnull hwrite =>
    simp only [compileFile, hread, hclass, if_neg hnull, hwrite]

theorem Escapes.compileFile_eq {e : RunError} (h : c.Escapes tree p e) :
    c.compileFile tree p = .error e := by
  cases h with
  | @beyond bytes text limit hread htext hvalue =>
    obtain ⟨e, hclass, hcause⟩ : ∃ e, c.classOf p bytes = .error e ∧ e.cause.limit? = some limit :=
      PageClass.ofSource_beyond.mpr (PageClass.load_beyond.mpr ⟨text, htext, hvalue⟩)
    simp only [compileFile, hread, hclass, hcause]
  | nullInPath hread hclass hnull => simp only [compileFile, hread, hclass, if_pos hnull]
  | @unencodable bytes pc hread hclass hnull hgarbles =>
    have hwrite := (writeClass_unencodable pc c.outputDir).mpr hgarbles
    cases hpair : writeClass (c.machine.refusal? p) tree pc c.outputDir with
    | mk left outcome =>
      rw [hpair] at hwrite
      obtain rfl : outcome = .error .unencodable := hwrite
      simp only [compileFile, hread, hclass, if_neg hnull, hpair]

/-- A document is compiled, or its error is kept. -/
theorem compileFile_eq_ok : c.compileFile tree p = .ok (grown, r) ↔
    ∃ outcome, c.Settles tree p grown outcome ∧
      r = ⟨p, (c.identity p).1, (c.identity p).2, outcome⟩ := by
  constructor
  · intro h
    obtain ⟨grown', outcome, hsettles, heq⟩ | ⟨e, -, heq⟩ := compileFile_cases c tree p
    · obtain ⟨rfl, rfl⟩ := Prod.mk.inj (Except.ok.inj (h.symm.trans heq))
      exact ⟨outcome, hsettles, rfl⟩
    · exact absurd (h.symm.trans heq) (by simp)
  · rintro ⟨outcome, hsettles, rfl⟩
    exact hsettles.compileFile_eq

/-- A document ends the run exactly by one of the errors that escape. -/
theorem compileFile_eq_error {e : RunError} :
    c.compileFile tree p = .error e ↔ c.Escapes tree p e := by
  refine ⟨fun h => ?_, Escapes.compileFile_eq⟩
  obtain ⟨grown', outcome, -, heq⟩ | ⟨e', hescapes, heq⟩ := compileFile_cases c tree p
  · exact absurd (h.symm.trans heq) (by simp)
  · obtain rfl := Except.error.inj (h.symm.trans heq)
    exact hescapes

/-- A document of nothing but digits ends the run when it has more of them than can be read. -/
theorem Escapes.of_digits {bytes : List UInt8} (hread : c.read tree p = .ok bytes)
    (hnumeral : Json.Parser.IsNumeral bytes) (hlimit : Text.digitLimit < bytes.length) :
    c.Escapes tree p (.beyond .oversizedInteger) := by
  have hlength : (Encoding.asciiChars bytes).length = bytes.length := List.length_map ..
  have hne : Encoding.asciiChars bytes ≠ [] := by
    rw [← List.length_pos_iff, hlength]
    omega
  refine .beyond hread (decodeDocument_ascii hnumeral.plain) ?_
  rw [String.toList_ofList, Json.Parser.document_digits (fun _ => hnumeral.digit_of_mem)
    hnumeral.head?_ne hne, hlength, if_pos hlimit]

/-- A document that opens with more lists than the levels that are left to the reader ends the run. -/
theorem Escapes.of_brackets {n : Nat} (hread : c.read tree p = .ok (List.replicate n 0x5B))
    (hdeep : c.machine.levels < n) : c.Escapes tree p (.beyond .tooDeep) := by
  have hplain : Encoding.IsPlain (List.replicate n 0x5B) := by
    intro byte hbyte
    obtain rfl := List.eq_of_mem_replicate hbyte
    decide
  refine .beyond hread (decodeDocument_ascii hplain) ?_
  have hchars : Encoding.asciiChars (List.replicate n 0x5B) = List.replicate n '[' := List.map_replicate
  rw [String.toList_ofList, hchars, ← List.append_nil (List.replicate n '[')]
  exact Json.Parser.document_brackets hdeep []

/-- The name of the class of a document holds no slash. -/
theorem classOf_plain {bytes : List UInt8} {pc : PageClass} (hclass : c.classOf p bytes = .ok pc)
    (hp : c.LeadsTo p) : '/' ∉ pc.name.toList :=
  (PageClass.ofSource_named hclass).1 ▸ (identity_plain hp).1

/-- A document grows the tree at its outputs alone. -/
theorem Settles.grows {outcome : Except BatchError (List Path)}
    (h : c.Settles tree p grown outcome) : Grows (c.OutputOf tree p) tree grown := by
  have written : ∀ {bytes pc left} {outcome : Except WriteFault (List Path)},
      c.read tree p = .ok bytes → c.classOf p bytes = .ok pc →
      writeClass (c.machine.refusal? p) tree pc c.outputDir = (left, outcome) →
      Grows (c.OutputOf tree p) tree left := by
    intro bytes pc left outcome hread hclass hwrite
    have hgrows := writeClass_grows (c.machine.refusal? p) tree pc c.outputDir
    rw [hwrite] at hgrows
    refine hgrows.mono ?_
    rintro output (rfl | rfl)
    · exact .interface hread hclass
    · exact .implementation hread hclass
  cases h with
  | unread => exact .refl
  | refused => exact .refl
  | unwritten hread hclass _ hwrite => exact written hread hclass hwrite
  | written hread hclass _ hwrite => exact written hread hclass hwrite

section Alike

variable (hread : other.read p = tree.read p)
  (hp : ∀ bytes, c.read tree p = .ok bytes → c.LeadsTo p)
  (hadmits : ∀ output, c.OutputOf tree p output → (other.Admits output ↔ tree.Admits output))
include hread hp hadmits

omit hread in
/-- Trees that admit the same of the outputs of a document write it alike. -/
theorem writeClass_alike_of_outputs {bytes : List UInt8} {pc : PageClass}
    (hthere : c.read tree p = .ok bytes) (hclass : c.classOf p bytes = .ok pc) :
    AlikeWriting (writeClass (c.machine.refusal? p) other pc c.outputDir).2
      (writeClass (c.machine.refusal? p) tree pc c.outputDir).2 :=
  writeClass_alike c.outputDir (classOf_plain hclass (hp _ hthere))
    (hadmits _ (.interface hthere hclass)) (hadmits _ (.implementation hthere hclass))

/-- **Trees that hold the same document and admit the same of its outputs settle it alike.** -/
theorem Settles.alike {outcome : Except BatchError (List Path)}
    (h : c.Settles other p grown outcome) :
    ∃ grown' outcome', c.Settles tree p grown' outcome' ∧ AlikeOutcome outcome outcome' := by
  have hsame := c.read_same hread
  cases h with
  | unread hunread => exact ⟨_, _, .unread (hsame ▸ hunread), .same _⟩
  | refused hthere hclass hcause => exact ⟨_, _, .refused (hsame ▸ hthere) hclass hcause, .same _⟩
  | @unwritten bytes pc left output e hthere hclass hnull hwrite =>
    have hthere := hsame ▸ hthere
    have halike := writeClass_alike_of_outputs hp hadmits hthere hclass
    rw [hwrite] at halike
    obtain ⟨e', hwrite'⟩ := halike.exists_file
    exact ⟨_, _, .unwritten hthere hclass hnull (Prod.ext rfl hwrite'), .write output e e'⟩
  | @written bytes pc left files hthere hclass hnull hwrite =>
    have hthere := hsame ▸ hthere
    have halike := writeClass_alike_of_outputs hp hadmits hthere hclass
    rw [hwrite] at halike
    exact ⟨_, _, .written hthere hclass hnull (Prod.ext rfl halike.eq_ok), .same _⟩

/-- Trees that hold the same document and admit the same of its outputs are ended by it alike. -/
theorem Escapes.congr {e : RunError} (h : c.Escapes other p e) : c.Escapes tree p e := by
  have hsame := c.read_same hread
  cases h with
  | beyond hthere htext hvalue => exact .beyond (hsame ▸ hthere) htext hvalue
  | nullInPath hthere hclass hnull => exact .nullInPath (hsame ▸ hthere) hclass hnull
  | @unencodable bytes pc hthere hclass hnull hgarbles =>
    have hthere := hsame ▸ hthere
    refine .unencodable hthere hclass hnull ((writeClass_unencodable pc c.outputDir).mp ?_)
    have halike := writeClass_alike_of_outputs hp hadmits hthere hclass
    rw [(writeClass_unencodable pc c.outputDir).mpr hgarbles] at halike
    exact halike.eq_unencodable

end Alike

/-- The result is alike to that of the document when it is compiled in the tree. -/
def Expected (c : Config) (tree : FileTree) (p : Path) (r : BatchResult) : Prop :=
  ∃ grown r', c.compileFile tree p = .ok (grown, r') ∧ r.Alike r'

theorem Expected.source (h : c.Expected tree p r) : r.source = p := by
  obtain ⟨grown, r', hcompiled, halike⟩ := h
  obtain ⟨outcome, -, rfl⟩ := compileFile_eq_ok.mp hcompiled
  exact halike.source

/-- What is expected of a document is the same up to being alike. -/
theorem Expected.alike {r' : BatchResult} (h : c.Expected tree p r) (h' : c.Expected tree p r') :
    r.Alike r' := by
  obtain ⟨grown, s, hcompiled, halike⟩ := h
  obtain ⟨grown', s', hcompiled', halike'⟩ := h'
  obtain ⟨-, rfl⟩ := Prod.mk.inj (Except.ok.inj (hcompiled.symm.trans hcompiled'))
  exact halike.trans halike'.symm

/-- Results that are expected of the same documents are alike, one by one. -/
theorem forall₂_alike_of_expected : ∀ {results others : List BatchResult},
    results.map (·.source) = others.map (·.source) →
    (∀ r ∈ results, c.Expected tree r.source r) → (∀ r ∈ others, c.Expected tree r.source r) →
    List.Forall₂ BatchResult.Alike results others
  | [], [], _, _, _ => .nil
  | [], _ :: _, hsources, _, _ => absurd hsources (by simp)
  | _ :: _, [], hsources, _, _ => absurd hsources (by simp)
  | r :: results, r' :: others, hsources, h, h' => by
    rw [List.map_cons, List.map_cons, List.cons.injEq] at hsources
    rw [List.forall_mem_cons] at h h'
    exact .cons (h.1.alike (hsources.1 ▸ h'.1)) (forall₂_alike_of_expected hsources.2 h.2 h'.2)

/-- What a document becomes in the one tree is expected of it in the other. -/
theorem expected_of_compileFile (h : c.compileFile other p = .ok (grown, r))
    (hread : other.read p = tree.read p)
    (hp : ∀ bytes, c.read tree p = .ok bytes → c.LeadsTo p)
    (hadmits : ∀ output, c.OutputOf tree p output → (other.Admits output ↔ tree.Admits output)) :
    c.Expected tree p r := by
  obtain ⟨outcome, hsettles, rfl⟩ := compileFile_eq_ok.mp h
  obtain ⟨grown', outcome', hsettles', halike⟩ := Settles.alike hread hp hadmits hsettles
  exact ⟨grown', _, compileFile_eq_ok.mpr ⟨outcome', hsettles', rfl⟩, rfl, rfl, rfl, halike⟩

/-! ## Documents one after the other -/

theorem compileAll_cons_eq_ok {ps : List Path} {results : List BatchResult} :
    c.compileAll tree (p :: ps) = .ok (grown, results) ↔ ∃ next r rest,
      c.compileFile tree p = .ok (next, r) ∧ c.compileAll next ps = .ok (grown, rest) ∧
        results = r :: rest := by
  rw [compileAll]
  cases c.compileFile tree p with
  | error e => simp
  | ok compiled =>
    obtain ⟨next, r⟩ := compiled
    dsimp only
    constructor
    · intro h
      split at h
      · exact absurd h (by simp)
      · rename_i last rest hrest
        obtain ⟨rfl, rfl⟩ := Prod.mk.inj (Except.ok.inj h)
        exact ⟨next, r, rest, rfl, hrest, rfl⟩
    · rintro ⟨next', r', rest, hfile, hrest, rfl⟩
      obtain ⟨rfl, rfl⟩ := Prod.mk.inj (Except.ok.inj hfile)
      rw [hrest]

theorem compileAll_cons_eq_error {ps : List Path} {e : RunError} :
    c.compileAll tree (p :: ps) = .error e ↔ c.compileFile tree p = .error e ∨
      ∃ next r, c.compileFile tree p = .ok (next, r) ∧ c.compileAll next ps = .error e := by
  rw [compileAll]
  cases c.compileFile tree p with
  | error e' => simp
  | ok compiled =>
    obtain ⟨next, r⟩ := compiled
    dsimp only
    cases hrest : c.compileAll next ps <;> simp [hrest]

/-- Documents have one result each, in their order. -/
theorem compileAll_sources {ps : List Path} {results : List BatchResult}
    (h : c.compileAll tree ps = .ok (grown, results)) : results.map (·.source) = ps := by
  induction ps generalizing tree results with
  | nil =>
    obtain ⟨-, rfl⟩ := Prod.mk.inj (Except.ok.inj h)
    rfl
  | cons p ps ih =>
    obtain ⟨next, r, rest, hfile, hrest, rfl⟩ := compileAll_cons_eq_ok.mp h
    obtain ⟨outcome, -, rfl⟩ := compileFile_eq_ok.mp hfile
    rw [List.map_cons, ih hrest]

/-- **Documents have no results exactly if one of them ends the run when it is its turn.** -/
theorem compileAll_eq_error {ps : List Path} {e : RunError} :
    c.compileAll tree ps = .error e ↔ ∃ front p back grown results, ps = front ++ p :: back ∧
      c.compileAll tree front = .ok (grown, results) ∧ c.Escapes grown p e := by
  induction ps generalizing tree with
  | nil => simp [compileAll]
  | cons p ps ih =>
    rw [compileAll_cons_eq_error, compileFile_eq_error]
    constructor
    · rintro (hescapes | ⟨next, r, hfile, hrest⟩)
      · exact ⟨[], p, ps, tree, [], rfl, rfl, hescapes⟩
      · obtain ⟨front, q, back, grown, results, rfl, hfront, hescapes⟩ := ih.mp hrest
        exact ⟨p :: front, q, back, grown, r :: results, rfl,
          compileAll_cons_eq_ok.mpr ⟨next, r, results, hfile, hfront, rfl⟩, hescapes⟩
    · rintro ⟨front, q, back, grown, results, hsplit, hfront, hescapes⟩
      cases front with
      | nil =>
        obtain ⟨rfl, rfl⟩ := List.cons.inj hsplit
        obtain ⟨rfl, -⟩ := Prod.mk.inj (Except.ok.inj hfront)
        exact .inl hescapes
      | cons first front =>
        obtain ⟨rfl, rfl⟩ := List.cons.inj hsplit
        obtain ⟨next, r, rest, hfile, hfront, -⟩ := compileAll_cons_eq_ok.mp hfront
        exact .inr ⟨next, r, hfile, ih.mpr ⟨front, q, back, grown, rest, rfl, hfront, hescapes⟩⟩

end PageObjects.Config
