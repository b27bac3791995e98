import PageObjects.Proofs.Batch.Outputs

/-!
# Writing page classes

Whether a file is opened, with its directories, depends on the tree only through `FileTree.Admits` and on
what the machine refuses; and writing it changes the tree only as `FileTree.Grows` allows, also when it
fails. Up to its opening a file keeps what it held, and from then on it holds what the machine lets be
written.

* `Opened`, `Granted`: the files that are opened, and those that are written to the end.
* `writeSource_cases`, `writeSource_grows`, `writeSource_writes`: one file.
* `writeClass_grows`, `writeClass_writes`: the interface and the class, and what they do to the files.
* `Garbles`, `writeClass_unencodable`: the texts that cannot be encoded.
* `writeClass_alike`: trees that admit the same of two files write them alike.
* `BatchResult.Alike`: results that differ at most in the operation at which a file could not be
  written.
-/

namespace PageObjects

open FileTree

variable {tree other made : FileTree} {path : Path} {source : String} {refusal? : Option Refusal}

/-! ## Opening a file -/

/-- The file is opened for writing: the tree admits it, and the machine refuses neither its directories
nor its opening. -/
def Opened (refusal? : Option Refusal) (tree : FileTree) (path : Path) : Prop :=
  tree.Admits path ∧ ∀ refusal ∈ refusal?, refusal.isOpened

/-- The file is written to the end: the tree admits it, and the machine does not stop it. -/
def Granted (refusal? : Option Refusal) (tree : FileTree) (path : Path) : Prop :=
  tree.Admits path ∧ refusal? = none

theorem Granted.opened (h : Granted refusal? tree path) : Opened refusal? tree path :=
  ⟨h.1, by simp [h.2]⟩

theorem Opened.congr (hadmits : other.Admits path ↔ tree.Admits path) :
    Opened refusal? other path ↔ Opened refusal? tree path := and_congr_left' hadmits

/-- What an opened file is left with is a beginning of its text. -/
theorem Refusal.left_prefix (refusal? : Option Refusal) (bytes : List UInt8) :
    left refusal? bytes <+: bytes := by
  unfold left
  split
  · exact List.nil_prefix
  · exact List.take_prefix ..
  · exact List.prefix_refl bytes

/-- A file of which no fault is reported is left with all of its text. -/
theorem Refusal.left_of_reported (h : reported refusal? path = .ok ()) (bytes : List UInt8) :
    left refusal? bytes = bytes := by
  cases refusal? with
  | none => rfl
  | some refusal =>
    cases refusal with
    | directories | opening => rfl
    | encoding | writing => exact absurd h (by simp [reported])

/-- An opened file is written to the end exactly if no fault is reported of it. -/
theorem Opened.granted_iff (h : Opened refusal? tree path) :
    Granted refusal? tree path ↔ Refusal.reported refusal? path = .ok () := by
  obtain ⟨hadmits, hopened⟩ := h
  cases refusal? with
  | none => exact iff_of_true ⟨hadmits, rfl⟩ rfl
  | some refusal =>
    refine iff_of_false (fun hgranted => absurd hgranted.2 (by simp)) ?_
    have hopened := hopened refusal rfl
    cases refusal with
    | directories | opening => exact absurd hopened Bool.false_ne_true
    | encoding | writing => simp [Refusal.reported]

/-! ## One file -/

/-- All that making the way to a file does: directories above it are opened, and all of them stand or the
error names the file. -/
theorem makeWay_cases (refusal? : Option Refusal) (tree : FileTree) (path : Path) :
    ∃ made, Opens path.parent.stops tree made ∧
      ((∃ e, makeWay refusal? tree path = (made, .error (.file path e))) ∨
        tree.makeDirectories path.parent = (made, .ok ()) ∧
          (∀ depth e, refusal? ≠ some (.directories depth e)) ∧
          makeWay refusal? tree path = (made, .ok ())) := by
  unfold makeWay
  split
  · rename_i depth refused
    have hopens := (makeDirectoriesWithin_opens (path.parent.parts.take depth).length tree
      { path.parent with parts := path.parent.parts.take depth }).mono (stops_take_subset path.parent depth)
    rw [makeDirectories]
    split <;> rename_i hmade <;> rw [hmade] at hopens <;> exact ⟨_, hopens, .inl ⟨_, rfl⟩⟩
  · rename_i hnot
    have hopens := makeDirectoriesWithin_opens path.parent.parts.length tree path.parent
    rw [makeDirectories]
    split
    · rename_i hmade
      rw [hmade] at hopens
      exact ⟨_, hopens, .inl ⟨_, rfl⟩⟩
    · rename_i hmade
      rw [hmade] at hopens
      exact ⟨_, hopens, .inr ⟨hmade, hnot, rfl⟩⟩

/-- All that writing a text does: nothing, and the error names the file; or the file is written as far as
the machine lets it. -/
theorem writeText_cases (refusal? : Option Refusal) (tree : FileTree) (path : Path) (source : String) :
    (∃ e, writeText refusal? tree path source = (tree, .error (.file path e))) ∨
      ∃ written, tree.write path (Refusal.left refusal? source.toUTF8.toList) = .ok written ∧
        (∀ e, refusal? ≠ some (.opening e)) ∧
        writeText refusal? tree path source = (written, Refusal.reported refusal? path) := by
  unfold writeText
  split
  · exact .inl ⟨_, rfl⟩
  · rename_i hnot
    split
    · exact .inl ⟨_, rfl⟩
    · rename_i written hwritten
      exact .inr ⟨written, hwritten, hnot, rfl⟩

/-- A tree that can be written to once directories are opened admits the file. -/
theorem admits_of_write {bytes : List UInt8} {written : FileTree}
    (hopens : Opens path.parent.stops tree made) (hwritten : made.write path bytes = .ok written) :
    tree.Admits path := by
  obtain ⟨husable, hreaches, hvacant, -⟩ := write_eq_ok.mp hwritten
  refine ⟨husable, ?_, fun hway => hvacant (hreaches _ hway), fun hat => hvacant (hopens.directory hat)⟩
  intro q hq hfile
  obtain ⟨_, hbytes⟩ := hopens.hasFile.mpr hfile
  exact absurd ((hreaches q hq).symm.trans hbytes) (by simp)

/-- A file that the tree admits can be written once its directories are made. -/
theorem exists_write_of_admits (hparts : path.parts ≠ []) (hadmits : tree.Admits path)
    (bytes : List UInt8) : ∃ made written,
      tree.makeDirectories path.parent = (made, .ok ()) ∧ made.write path bytes = .ok written := by
  have hopens := makeDirectoriesWithin_opens path.parent.parts.length tree path.parent
  rw [← Path.way_eq_stops_parent hparts] at hopens
  have hmakes := makeDirectoriesWithin_clear (Nat.le_refl _) hadmits.usable.parent
    (Path.way_eq_stops_parent hparts ▸ hadmits.clear)
  rw [makeDirectories]
  cases hmade : tree.makeDirectoriesWithin path.parent.parts.length path.parent with
  | mk made outcome =>
    rw [hmade] at hmakes hopens
    obtain rfl : outcome = .ok () := hmakes
    have hreaches := (reaches_iff_parent hparts).mpr (makeDirectoriesWithin_stands hmade).2
    have hvacant : made.at? path.resolved ≠ some .directory := by
      rcases hopens path.resolved with hsame | ⟨hway, -, -⟩
      · rw [hsame]
        exact hadmits.vacant
      · exact absurd hway hadmits.apart
    exact ⟨made, _, rfl, write_eq_ok.mpr ⟨hadmits.usable, hreaches, hvacant, rfl⟩⟩

/-- Where the machine lets a file be opened, its way is made and its text is written as the tree allows. -/
theorem makeWay_of_isOpened (hopened : ∀ refusal ∈ refusal?, refusal.isOpened)
    (hmade : tree.makeDirectories path.parent = (made, .ok ())) :
    makeWay refusal? tree path = (made, .ok ()) := by
  unfold makeWay
  split
  · exact absurd (hopened _ rfl) Bool.false_ne_true
  · rw [hmade]

theorem writeText_of_isOpened {written : FileTree} (hopened : ∀ refusal ∈ refusal?, refusal.isOpened)
    (hwritten : tree.write path (Refusal.left refusal? source.toUTF8.toList) = .ok written) :
    writeText refusal? tree path source = (written, Refusal.reported refusal? path) := by
  unfold writeText
  split
  · exact absurd (hopened _ rfl) Bool.false_ne_true
  · rw [hwritten]

/-- **All that writing a file does.** A file that is not opened leaves the tree with more directories, and
the error names it. One that is opened is written as far as the machine lets it. -/
theorem writeSource_cases (refusal? : Option Refusal) (tree : FileTree) (source : String)
    (hparts : path.parts ≠ []) :
    (¬ Opened refusal? tree path ∧ ∃ made e, Opens path.way tree made ∧
        writeSource refusal? tree path source = (made, .error (.file path e))) ∨
      (Opened refusal? tree path ∧ ∃ made written, Opens path.way tree made ∧
        made.write path (Refusal.left refusal? source.toUTF8.toList) = .ok written ∧
        writeSource refusal? tree path source = (written, Refusal.reported refusal? path)) := by
  rw [Path.way_eq_stops_parent hparts]
  by_cases hopened : Opened refusal? tree path
  · obtain ⟨made, written, hmade, hwritten⟩ := exists_write_of_admits hparts hopened.1
      (Refusal.left refusal? source.toUTF8.toList)
    have hopens := makeDirectoriesWithin_opens path.parent.parts.length tree path.parent
    rw [← makeDirectories, hmade] at hopens
    refine .inr ⟨hopened, made, written, hopens, hwritten, ?_⟩
    simp only [writeSource, makeWay_of_isOpened hopened.2 hmade,
      writeText_of_isOpened hopened.2 hwritten]
  · refine .inl ⟨hopened, ?_⟩
    obtain ⟨made, hopens, ⟨e, hway⟩ | ⟨hmade, hdirectories, hway⟩⟩ := makeWay_cases refusal? tree path
    · exact ⟨made, e, hopens, by simp only [writeSource, hway]⟩
    · obtain ⟨e, htext⟩ | ⟨written, hwritten, hopening, -⟩ := writeText_cases refusal? made path source
      · exact ⟨made, e, hopens, by simp only [writeSource, hway, htext]⟩
      · -- both steps went through, so the file was opened
        refine absurd ⟨admits_of_write hopens hwritten, ?_⟩ hopened
        rintro (_ | _ | _ | _) hrefusal
        · exact absurd hrefusal (hdirectories _ _)
        · exact absurd hrefusal (hopening _)
        · rfl
        · rfl

/-- Writing a file grows the tree at its path alone, also when it fails on the way. -/
theorem writeSource_grows {outputs : Path → Prop} (hpath : outputs path) (hparts : path.parts ≠ []) :
    Grows outputs tree (writeSource refusal? tree path source).1 := by
  obtain ⟨-, made, e, hopens, h⟩ | ⟨-, made, written, hopens, hwritten, h⟩ :=
    writeSource_cases refusal? tree source hparts
  · rw [h]
    exact .of_opens hpath hopens
  · rw [h]
    exact Grows.trans (.of_opens hpath hopens) (.of_write hpath hwritten)

/-- What the files hold once a file was opened: that one holds what it is left with. -/
def openedOver (files : Path → Option (List UInt8)) (refusal? : Option Refusal) (path : Path)
    (source : String) : Path → Option (List UInt8) :=
  Function.update files path.resolved (some (Refusal.left refusal? source.toUTF8.toList))

/-- **Writing a file changes no other file**, and none if the file is not opened. -/
theorem writeSource_writes (refusal? : Option Refusal) (tree : FileTree) (source : String)
    (hparts : path.parts ≠ []) :
    (¬ Opened refusal? tree path ∧ ∃ made e,
        writeSource refusal? tree path source = (made, .error (.file path e)) ∧
          made.bytes? = tree.bytes?) ∨
      (Opened refusal? tree path ∧ ∃ written,
        writeSource refusal? tree path source = (written, Refusal.reported refusal? path) ∧
          written.bytes? = openedOver tree.bytes? refusal? path source ∧
          written.read path = .ok (Refusal.left refusal? source.toUTF8.toList) ∧
          Grows (· = path) tree written) := by
  have hgrows : Grows (· = path) tree (writeSource refusal? tree path source).1 :=
    writeSource_grows rfl hparts
  obtain ⟨hnot, made, e, hopens, h⟩ | ⟨hopened, made, written, hopens, hwritten, h⟩ :=
    writeSource_cases refusal? tree source hparts
  · exact .inl ⟨hnot, made, e, h, hopens.bytes?_eq⟩
  · rw [h] at hgrows
    refine .inr ⟨hopened, written, h, ?_, read_of_write hwritten, hgrows⟩
    rw [bytes?_of_write hwritten, hopens.bytes?_eq, openedOver]

/-! ## The interface and the class -/

section WriteClass

variable {pc : PageClass} {directory : Path} {refuses : Path → Option Refusal}

/-- Writing a page class grows the tree at its two paths alone. -/
theorem writeClass_grows (refuses : Path → Option Refusal) (tree : FileTree) (pc : PageClass)
    (directory : Path) :
    Grows (fun p => p = (outputPaths pc directory).1 ∨ p = (outputPaths pc directory).2) tree
      (writeClass refuses tree pc directory).1 := by
  obtain ⟨hfirst, hsecond⟩ := Config.outputPaths_parts_ne_nil pc directory
  have hinterface : Grows
      (fun p => p = (outputPaths pc directory).1 ∨ p = (outputPaths pc directory).2) tree
      (writeSource (refuses (outputPaths pc directory).1) tree (outputPaths pc directory).1
        (Java.interfaceSource pc)).1 := writeSource_grows (.inl rfl) hfirst
  simp only [writeClass]
  split
  · rename_i between e hone
    rw [hone] at hinterface
    exact hinterface
  · rename_i between hone
    rw [hone] at hinterface
    have hclass : Grows
        (fun p => p = (outputPaths pc directory).1 ∨ p = (outputPaths pc directory).2) between
        (writeSource (refuses (outputPaths pc directory).2) between (outputPaths pc directory).2
          (Java.classSource pc)).1 := writeSource_grows (.inr rfl) hsecond
    split
    · rename_i written e htwo
      rw [htwo] at hclass
      exact hinterface.trans hclass
    · rename_i written htwo
      rw [htwo] at hclass
      exact hinterface.trans hclass

/-- What the files hold once the interface of a page class is written. -/
def interfaceOver (files : Path → Option (List UInt8)) (pc : PageClass) (directory : Path) :
    Path → Option (List UInt8) :=
  openedOver files none (outputPaths pc directory).1 (Java.interfaceSource pc)

/-- What the files hold once the interface and the class are written. -/
def sourcesOver (files : Path → Option (List UInt8)) (pc : PageClass) (directory : Path) :
    Path → Option (List UInt8) :=
  openedOver (interfaceOver files pc directory) none (outputPaths pc directory).2 (Java.classSource pc)

/-- What writing a page class does to the files, and what becomes of it. -/
inductive Writes (refuses : Path → Option Refusal) (tree : FileTree) (pc : PageClass) (directory : Path)
    (grown : FileTree) : Except WriteFault (List Path) → Prop where
  | neither {e : FileError}
      (hnot : ¬ Opened (refuses (outputPaths pc directory).1) tree (outputPaths pc directory).1)
      (hbytes : grown.bytes? = tree.bytes?) :
      Writes refuses tree pc directory grown (.error (.file (outputPaths pc directory).1 e))
  | interfaceBegun {fault : WriteFault}
      (hopened : Opened (refuses (outputPaths pc directory).1) tree (outputPaths pc directory).1)
      (hfault : Refusal.reported (refuses (outputPaths pc directory).1) (outputPaths pc directory).1 =
        .error fault)
      (hbytes : grown.bytes? = openedOver tree.bytes? (refuses (outputPaths pc directory).1)
        (outputPaths pc directory).1 (Java.interfaceSource pc)) :
      Writes refuses tree pc directory grown (.error fault)
  | interfaceAlone {e : FileError}
      (hgranted : Granted (refuses (outputPaths pc directory).1) tree (outputPaths pc directory).1)
      (hnot : ¬ Opened (refuses (outputPaths pc directory).2) tree (outputPaths pc directory).2)
      (hbytes : grown.bytes? = interfaceOver tree.bytes? pc directory) :
      Writes refuses tree pc directory grown (.error (.file (outputPaths pc directory).2 e))
  | classBegun {fault : WriteFault}
      (hgranted : Granted (refuses (outputPaths pc directory).1) tree (outputPaths pc directory).1)
      (hopened : Opened (refuses (outputPaths pc directory).2) tree (outputPaths pc directory).2)
      (hfault : Refusal.reported (refuses (outputPaths pc directory).2) (outputPaths pc directory).2 =
        .error fault)
      (hbytes : grown.bytes? = openedOver (interfaceOver tree.bytes? pc directory)
        (refuses (outputPaths pc directory).2) (outputPaths pc directory).2 (Java.classSource pc)) :
      Writes refuses tree pc directory grown (.error fault)
  | both (hfirst : Granted (refuses (outputPaths pc directory).1) tree (outputPaths pc directory).1)
      (hsecond : Granted (refuses (outputPaths pc directory).2) tree (outputPaths pc directory).2)
      (hbytes : grown.bytes? = sourcesOver tree.bytes? pc directory)
      (hinterface : grown.read (outputPaths pc directory).1 =
        .ok (Java.interfaceSource pc).toUTF8.toList)
      (hclass : grown.read (outputPaths pc directory).2 = .ok (Java.classSource pc).toUTF8.toList) :
      Writes refuses tree pc directory grown
        (.ok [(outputPaths pc directory).1, (outputPaths pc directory).2])

/-- The interface is not on the way of the class, which is admitted if it was before. -/
theorem admits_class_of_grows {between : FileTree} (directory : Path) (hname : '/' ∉ pc.name.toList)
    (hgrown : Grows (· = (outputPaths pc directory).1) tree between) :
    between.Admits (outputPaths pc directory).2 ↔ tree.Admits (outputPaths pc directory).2 := by
  obtain ⟨base, hfirst, hsecond⟩ := Config.exists_below_outputPaths directory hname
  have hbelow : Grows (Path.Below base) tree between := hgrown.mono fun _ hpath => hpath ▸ hfirst
  exact hbelow.admits_iff (Path.Below.separated base) hsecond

/-- **What writing a page class does to the files** is told by what the tree admits and what the machine
refuses. The interface is written first, and is not taken back when the class cannot be written. -/
theorem writeClass_writes (refuses : Path → Option Refusal) (tree : FileTree) (directory : Path)
    (hname : '/' ∉ pc.name.toList) : Writes refuses tree pc directory (writeClass refuses tree pc directory).1
      (writeClass refuses tree pc directory).2 := by
  obtain ⟨base, hfirst, hsecond⟩ := Config.exists_below_outputPaths directory hname
  obtain ⟨hnot, made, e, hone, hmade⟩ | ⟨hopened, between, hone, hbetween, hinterface, hgrown⟩ :=
    writeSource_writes (refuses (outputPaths pc directory).1) tree (Java.interfaceSource pc)
      hfirst.parts_ne_nil
  · simp only [writeClass, hone]
    exact .neither hnot hmade
  · cases hreported : Refusal.reported (refuses (outputPaths pc directory).1)
      (outputPaths pc directory).1 with
    | error fault =>
      rw [hreported] at hone
      simp only [writeClass, hone]
      exact .interfaceBegun hopened hreported hbetween
    | ok =>
      have hgranted := hopened.granted_iff.mpr hreported
      have hwhole := Refusal.left_of_reported hreported
      rw [hreported] at hone
      rw [hwhole] at hinterface
      rw [openedOver, hwhole] at hbetween
      have hsame := admits_class_of_grows directory hname hgrown
      obtain ⟨hnot, left, e, htwo, hleft⟩ | ⟨hopened', written, htwo, hwritten, hclass, hnext⟩ :=
        writeSource_writes (refuses (outputPaths pc directory).2) between (Java.classSource pc)
          hsecond.parts_ne_nil
      · simp only [writeClass, hone, htwo]
        exact .interfaceAlone hgranted (mt (Opened.congr hsame).mpr hnot) (hleft.trans hbetween)
      · have hopened' := (Opened.congr hsame).mp hopened'
        rw [hbetween] at hwritten
        cases hreported' : Refusal.reported (refuses (outputPaths pc directory).2)
          (outputPaths pc directory).2 with
        | error fault =>
          rw [hreported'] at htwo
          simp only [writeClass, hone, htwo]
          exact .classBegun hgranted hopened' hreported' hwritten
        | ok =>
          have hwhole' := Refusal.left_of_reported hreported'
          rw [hreported'] at htwo
          rw [openedOver, hwhole'] at hwritten
          simp only [writeClass, hone, htwo]
          rw [hwhole'] at hclass
          refine .both hgranted (hopened'.granted_iff.mpr hreported') hwritten ?_ hclass
          refine read_of_grows hinterface hnext ?_
          rintro _ rfl
          exact fun hplace => Config.outputPaths_ne hname (hfirst.resolved_inj hsecond hplace)

/-- What becomes of a page class is what becomes of its interface, and then of its class in the tree that
the interface has left. -/
theorem writeClass_snd (refuses : Path → Option Refusal) (tree : FileTree) (pc : PageClass)
    (directory : Path) : (writeClass refuses tree pc directory).2 =
      (writeSource (refuses (outputPaths pc directory).1) tree (outputPaths pc directory).1
        (Java.interfaceSource pc)).2.bind fun _ =>
      (writeSource (refuses (outputPaths pc directory).2)
        (writeSource (refuses (outputPaths pc directory).1) tree (outputPaths pc directory).1
          (Java.interfaceSource pc)).1 (outputPaths pc directory).2 (Java.classSource pc)).2.map fun _ =>
      [(outputPaths pc directory).1, (outputPaths pc directory).2] := by
  simp only [writeClass]
  cases writeSource (refuses (outputPaths pc directory).1) tree (outputPaths pc directory).1
    (Java.interfaceSource pc) with
  | mk between outcome =>
    cases outcome with
    | error fault => rfl
    | ok =>
      simp only [Except.bind]
      cases writeSource (refuses (outputPaths pc directory).2) between (outputPaths pc directory).2
        (Java.classSource pc) with
      | mk written outcome => cases outcome <;> rfl

/-- The machine cannot encode a text of the page class once it has opened the file for it: the interface,
or the class when the interface has been written. -/
inductive Garbles (refuses : Path → Option Refusal) (tree : FileTree) (pc : PageClass)
    (directory : Path) : Prop where
  | interface (hadmits : tree.Admits (outputPaths pc directory).1)
      (hrefusal : refuses (outputPaths pc directory).1 = some .encoding)
  | implementation {between : FileTree}
      (hinterface : writeSource (refuses (outputPaths pc directory).1) tree (outputPaths pc directory).1
        (Java.interfaceSource pc) = (between, .ok ()))
      (hadmits : between.Admits (outputPaths pc directory).2)
      (hrefusal : refuses (outputPaths pc directory).2 = some .encoding)

theorem Refusal.reported_unencodable :
    Refusal.reported refusal? path = .error .unencodable ↔ refusal? = some .encoding := by
  cases refusal? with
  | none => simp [Refusal.reported]
  | some refusal => cases refusal <;> simp [Refusal.reported]

/-- A file is found not to be encodable exactly if it is opened and the machine cannot encode its text. -/
theorem writeSource_unencodable (hparts : path.parts ≠ []) :
    (writeSource refusal? tree path source).2 = .error .unencodable ↔
      tree.Admits path ∧ refusal? = some .encoding := by
  obtain ⟨hnot, made, e, -, h⟩ | ⟨hopened, made, written, -, -, h⟩ :=
    writeSource_cases refusal? tree source hparts
  · rw [h]
    refine iff_of_false (by simp) ?_
    rintro ⟨hadmits, rfl⟩
    exact hnot ⟨hadmits, fun refusal hrefusal => Option.some.inj hrefusal ▸ rfl⟩
  · rw [h, Refusal.reported_unencodable, and_iff_right hopened.1]

/-- **Writing a page class ends for want of an encoding** exactly where one of its texts cannot be
encoded. -/
theorem writeClass_unencodable (pc : PageClass) (directory : Path) :
    (writeClass refuses tree pc directory).2 = .error .unencodable ↔
      Garbles refuses tree pc directory := by
  obtain ⟨hfirst, hsecond⟩ := Config.outputPaths_parts_ne_nil pc directory
  rw [writeClass_snd, bind_eq_error, writeSource_unencodable hfirst]
  constructor
  · rintro (⟨hadmits, hrefusal⟩ | ⟨_, hinterface, hclass⟩)
    · exact .interface hadmits hrefusal
    · obtain ⟨hadmits, hrefusal⟩ := (writeSource_unencodable hsecond).mp (map_eq_error.mp hclass)
      exact .implementation (Prod.ext rfl hinterface) hadmits hrefusal
  · rintro (⟨hadmits, hrefusal⟩ | ⟨hinterface, hadmits, hrefusal⟩)
    · exact .inl ⟨hadmits, hrefusal⟩
    · refine .inr ⟨(), congrArg Prod.snd hinterface, map_eq_error.mpr ?_⟩
      rw [hinterface]
      exact (writeSource_unencodable hsecond).mpr ⟨hadmits, hrefusal⟩

/-! ## Writing alike -/

/-- Outcomes of writing that differ at most in the operation that failed. -/
inductive AlikeWriting {α : Type} : Except WriteFault α → Except WriteFault α → Prop where
  | same (outcome : Except WriteFault α) : AlikeWriting outcome outcome
  | file (path : Path) (e e' : FileError) : AlikeWriting (.error (.file path e)) (.error (.file path e'))

section AlikeWriting

variable {α β : Type} {outcome outcome' : Except WriteFault α}

theorem AlikeWriting.eq_ok {a : α} (h : AlikeWriting (.ok a) outcome) : outcome = .ok a := by
  cases h
  rfl

theorem AlikeWriting.eq_unencodable (h : AlikeWriting (.error .unencodable) outcome) :
    outcome = .error .unencodable := by
  cases h
  rfl

theorem AlikeWriting.exists_file {e : FileError} (h : AlikeWriting (.error (.file path e)) outcome) :
    ∃ e', outcome = .error (.file path e') := by
  cases h
  · exact ⟨e, rfl⟩
  · exact ⟨_, rfl⟩

theorem AlikeWriting.bind {next next' : α → Except WriteFault β} (h : AlikeWriting outcome outcome')
    (hnext : ∀ a, AlikeWriting (next a) (next' a)) :
    AlikeWriting (outcome.bind next) (outcome'.bind next') := by
  cases h with
  | same =>
    cases outcome with
    | error fault => exact .same _
    | ok a => exact hnext a
  | file path e e' => exact .file path e e'

end AlikeWriting

/-- Trees that both admit a file, or both do not, write it alike. -/
theorem writeSource_alike (hparts : path.parts ≠ []) (hadmits : other.Admits path ↔ tree.Admits path) :
    AlikeWriting (writeSource refusal? other path source).2 (writeSource refusal? tree path source).2 := by
  have hsame : Opened refusal? other path ↔ Opened refusal? tree path := Opened.congr hadmits
  obtain ⟨hnot, made, e, -, h⟩ | ⟨hopened, made, written, -, -, h⟩ :=
    writeSource_cases refusal? tree source hparts
  · obtain ⟨-, made', e', -, h'⟩ | ⟨hopened', -⟩ := writeSource_cases refusal? other source hparts
    · rw [h, h']
      exact .file path e' e
    · exact absurd (hsame.mp hopened') hnot
  · obtain ⟨hnot', -⟩ | ⟨-, made', written', -, -, h'⟩ := writeSource_cases refusal? other source hparts
    · exact absurd (hsame.mpr hopened) hnot'
    · rw [h, h']
      exact .same _

/-- **Trees that admit the same of the two files of a page class write them alike.** -/
theorem writeClass_alike (directory : Path) (hname : '/' ∉ pc.name.toList)
    (hfirst : other.Admits (outputPaths pc directory).1 ↔ tree.Admits (outputPaths pc directory).1)
    (hsecond : other.Admits (outputPaths pc directory).2 ↔ tree.Admits (outputPaths pc directory).2) :
    AlikeWriting (writeClass refuses other pc directory).2 (writeClass refuses tree pc directory).2 := by
  obtain ⟨hparts, hparts'⟩ := Config.outputPaths_parts_ne_nil pc directory
  -- the interface leaves both trees admitting of the class what they admitted before
  have hclass : ∀ start : FileTree,
      (writeSource (refuses (outputPaths pc directory).1) start (outputPaths pc directory).1
        (Java.interfaceSource pc)).1.Admits (outputPaths pc directory).2 ↔
      start.Admits (outputPaths pc directory).2 := fun start =>
    admits_class_of_grows directory hname (writeSource_grows rfl hparts)
  rw [writeClass_snd, writeClass_snd]
  refine (writeSource_alike hparts hfirst).bind fun _ => ?_
  exact (writeSource_alike hparts' ((hclass other).trans (hsecond.trans (hclass tree).symm))).bind
    fun _ => .same _

end WriteClass

/-! ## Results that are alike -/

/-- Outcomes that differ at most in the operation at which a file could not be written. -/
inductive AlikeOutcome : Except BatchError (List Path) → Except BatchError (List Path) → Prop where
  | same (outcome : Except BatchError (List Path)) : AlikeOutcome outcome outcome
  | write (path : Path) (fault fault' : FileError) :
      AlikeOutcome (.error (.write path fault)) (.error (.write path fault'))

theorem AlikeOutcome.symm {a b : Except BatchError (List Path)} (h : AlikeOutcome a b) :
    AlikeOutcome b a := by
  cases h with
  | same => exact .same a
  | write path fault fault' => exact .write path fault' fault

theorem AlikeOutcome.trans {a b c : Except BatchError (List Path)} (h : AlikeOutcome a b)
    (h' : AlikeOutcome b c) : AlikeOutcome a c := by
  cases h with
  | same => exact h'
  | write path fault fault' =>
    cases h' with
    | same => exact .write path fault fault'
    | write _ _ fault'' => exact .write path fault fault''

/-- Results for the same document, with outcomes that are alike. -/
structure BatchResult.Alike (r r' : BatchResult) : Prop where
  source : r.source = r'.source
  name : r.name = r'.name
  package : r.package = r'.package
  outcome : AlikeOutcome r.outcome r'.outcome

namespace BatchResult.Alike

variable {r r' r'' : BatchResult}

theorem symm (h : r.Alike r') : r'.Alike r :=
  ⟨h.source.symm, h.name.symm, h.package.symm, h.outcome.symm⟩

theorem trans (h : r.Alike r') (h' : r'.Alike r'') : r.Alike r'' :=
  ⟨h.source.trans h'.source, h.name.trans h'.name, h.package.trans h'.package,
    h.outcome.trans h'.outcome⟩

end BatchResult.Alike

end PageObjects
