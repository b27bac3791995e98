import Mathlib.Logic.Function.Basic
import PageObjects.Proofs.Files.WellFormed

/-!
# How trees grow

Making directories and writing files only adds to a tree: a directory stays a directory, a file
stays a file, and what comes to stand anywhere is bounded by the paths of the operations. This is
the frame that tells one write from another.

* `FileTree.at?_put`: putting a node at a place changes that place alone.
* `FileTree.Grows`: what writing files at some paths can change, place by place.
* `FileTree.makeDirectoriesWithin_opens`, `FileTree.makeDirectoriesWithin_stands`,
  `FileTree.makeDirectoriesWithin_clear`: making directories opens the stops of the path, leaves
  them all directories when it succeeds, and succeeds where no file is in the way.
* `FileTree.write_eq_ok`: when a file is written.
* `FileTree.bytes?`, `FileTree.bytes?_of_write`: what the files hold, and that writing a file changes it
  alone.
* `FileTree.Admits`, `FileTree.Grows.admits_iff`: whether a file can be written with its
  directories, and that other files written before do not matter.
-/

namespace PageObjects.FileTree

variable {tree made grown : FileTree}

/-! ## Putting a node -/

theorem lookup_put (tree : FileTree) (p q : Path) (node : Node) :
    (tree.put p node).lookup q = if q = p then some node else tree.lookup q :=
  PageObjects.lookup_put tree p q node

/-- **Putting a node changes one place alone.** A directory stands at an anchor all the same. -/
theorem at?_put (tree : FileTree) (p q : Path) (node : Node) :
    (tree.put p node).at? q = if q = p ∧ ¬ q.isAnchor then some node else tree.at? q := by
  unfold at?
  by_cases hanchor : q.isAnchor
  · rw [if_pos hanchor, if_pos hanchor, if_neg fun h => h.2 hanchor]
  · rw [if_neg hanchor, if_neg hanchor, lookup_put]
    by_cases hq : q = p
    · rw [if_pos hq, if_pos ⟨hq, hanchor⟩]
    · rw [if_neg hq, if_neg fun h => hq h.1]

/-! ## Opening directories -/

/-- Directories come to stand at some of the places, where nothing stood; else nothing changes. -/
def Opens (places : List Path) (tree made : FileTree) : Prop :=
  ∀ q, made.at? q = tree.at? q ∨
    (q ∈ places ∧ tree.at? q = none ∧ made.at? q = some .directory)

namespace Opens

variable {places more : List Path}

theorem refl : Opens places tree tree := fun _ => .inl rfl

theorem mono (h : Opens places tree made) (hsub : places ⊆ more) : Opens more tree made :=
  fun q => (h q).imp_right fun ⟨hq, hopened⟩ => ⟨hsub hq, hopened⟩

theorem trans {next : FileTree} (h : Opens places tree made) (hnext : Opens places made next) :
    Opens places tree next := by
  intro q
  rcases hnext q with hsame | ⟨hq, hnone, hdirectory⟩
  · rw [hsame]
    exact h q
  · rcases h q with hsame | ⟨-, -, hmade⟩
    · exact .inr ⟨hq, hsame ▸ hnone, hdirectory⟩
    · exact absurd (hmade.symm.trans hnone) (by simp)

/-- A directory stays one. -/
theorem directory (h : Opens places tree made) {q : Path} (hq : tree.at? q = some .directory) :
    made.at? q = some .directory := by
  rcases h q with hsame | ⟨-, -, hmade⟩
  · rw [hsame, hq]
  · exact hmade

theorem reaches (h : Opens places tree made) {p : Path} (hp : tree.Reaches p) : made.Reaches p :=
  fun q hq => h.directory (hp q hq)

/-- No file comes to stand anywhere. -/
theorem hasFile (h : Opens places tree made) {q : Path} : made.HasFile q ↔ tree.HasFile q := by
  rcases h q with hsame | ⟨-, hnone, hmade⟩
  · rw [HasFile, HasFile, hsame]
  · simp [HasFile, hnone, hmade]

end Opens

/-! ## One directory -/

/-- Nothing at a place that is asked for: a directory can be put there. -/
theorem opens_put {p : Path} (h : tree.at? p = none) : Opens [p] tree (tree.put p .directory) := by
  intro q
  rw [at?_put]
  by_cases hq : q = p ∧ ¬ q.isAnchor
  · rw [if_pos hq]
    exact .inr ⟨by simp [hq.1], hq.1 ▸ h, rfl⟩
  · exact .inl (if_neg hq)

/-- Where the way stands, what stands at the place decides. -/
theorem ensureDirectory_of_locate {p place : Path} (h : tree.locate p = .ok place) :
    tree.ensureDirectory p =
      match tree.at? place with
      | none => .ok (tree.put place .directory)
      | some .directory => .ok tree
      | some (.file _) => .error ⟨.exists, p⟩ := by
  have hthere : tree.isDirectory p = .ok (tree.at? place == some .directory) := by
    rw [isDirectory, look, h]; rfl
  simp only [ensureDirectory, makeDirectory, h, hthere]
  cases tree.at? place with
  | none => rfl
  | some node => cases node <;> rfl

/-- Where the way does not stand, no directory is made. -/
theorem ensureDirectory_ne_ok {p : Path} {fault : FileFault} (h : tree.locate p = .error fault) :
    tree.ensureDirectory p ≠ .ok made := by
  simp only [ensureDirectory, makeDirectory, isDirectory, look, h]
  cases fault <;> exact fun he => absurd he (by simp [Except.map])

/-- What is missing on the way is reported as missing. -/
theorem ensureDirectory_missing {p : Path} (h : tree.locate p = .error .notFound) :
    tree.ensureDirectory p = .error ⟨.notFound, p⟩ := by
  simp only [ensureDirectory, makeDirectory, isDirectory, look, h]
  rfl

/-- A directory that is made, or there already, stands at the end of a way that stands. -/
theorem ensureDirectory_eq_ok {p : Path} (h : tree.ensureDirectory p = .ok made) :
    p.Usable ∧ tree.Reaches p ∧ made.at? p.resolved = some .directory ∧
      Opens [p.resolved] tree made := by
  cases hlocate : tree.locate p with
  | error fault => exact absurd h (ensureDirectory_ne_ok hlocate)
  | ok place =>
    obtain ⟨husable, hreaches, rfl⟩ := locate_eq_ok.mp hlocate
    refine ⟨husable, hreaches, ?_⟩
    rw [ensureDirectory_of_locate hlocate] at h
    split at h
    · rename_i hat
      obtain rfl := Except.ok.inj h
      have hanchor : ¬ p.resolved.isAnchor := fun hanchor => by simp [at?, hanchor] at hat
      exact ⟨by rw [at?_put, if_pos ⟨rfl, hanchor⟩], opens_put hat⟩
    · rename_i hat
      obtain rfl := Except.ok.inj h
      exact ⟨hat, Opens.refl⟩
    · exact absurd h (by simp)

theorem ensureDirectory_stands {p : Path} (h : tree.ensureDirectory p = .ok made) :
    p.Usable ∧ made.Stands p := by
  obtain ⟨husable, hreaches, hend, hopens⟩ := ensureDirectory_eq_ok h
  exact ⟨husable, stands_iff.mpr ⟨hopens.reaches hreaches, hend⟩⟩

/-- Where the way stands and no file stands at its end, a directory is made. -/
theorem ensureDirectory_of_reaches {p : Path} (husable : p.Usable) (hreaches : tree.Reaches p)
    (hclear : ¬ tree.HasFile p.resolved) : ∃ made, tree.ensureDirectory p = .ok made := by
  rw [ensureDirectory_of_locate (locate_eq_ok.mpr ⟨husable, hreaches, rfl⟩)]
  split
  · exact ⟨_, rfl⟩
  · exact ⟨_, rfl⟩
  · rename_i bytes hat
    exact absurd ⟨bytes, hat⟩ hclear

/-! ## Directories above one another -/

theorem stops_parent_subset (p : Path) : p.parent.stops ⊆ p.stops := by
  by_cases hparts : p.parts = []
  · have hself : p.parent = p := by rw [Path.parent, hparts, List.dropLast_nil, ← hparts]
    rw [hself]
    exact List.Subset.refl _
  · rw [← Path.way_eq_stops_parent hparts]
    exact List.subset_append_left _ _

/-- A path that ends earlier stops nowhere else. -/
theorem stops_take_subset (p : Path) (n : Nat) :
    Path.stops { p with parts := p.parts.take n } ⊆ p.stops := by
  have hway : p.way = Path.way { p with parts := p.parts.take n } ++
      Path.wayFrom (Path.resolved { p with parts := p.parts.take n }) (p.parts.drop n) := by
    rw [← Path.way_append]
    simp only [List.take_append_drop]
  have hresolved : p.resolved =
      (p.parts.drop n).foldl Path.step (Path.resolved { p with parts := p.parts.take n }) := by
    rw [← Path.resolved_append]
    simp only [List.take_append_drop]
  rw [Path.stops, Path.stops, hway, hresolved]
  refine List.append_subset.mpr ⟨?_, ?_⟩
  · exact fun place hplace => List.mem_append_left _ (List.mem_append_left _ hplace)
  · intro place hplace
    obtain rfl := List.mem_singleton.mp hplace
    cases p.parts.drop n with
    | nil => exact List.mem_append_right _ (List.mem_singleton.mpr rfl)
    | cons component rest =>
      exact List.mem_append_left _ (List.mem_append_right _ List.mem_cons_self)

theorem opens_of_ensureDirectory {p : Path} (h : tree.ensureDirectory p = .ok made) :
    Opens p.stops tree made :=
  (ensureDirectory_eq_ok h).2.2.2.mono (List.subset_append_right _ _)

/-- Whether or not the directory comes to stand, nothing but the stops of its path is opened. -/
theorem makeDirectoriesWithin_opens (depth : Nat) (tree : FileTree) (p : Path) :
    Opens p.stops tree (tree.makeDirectoriesWithin depth p).1 := by
  induction depth generalizing p with
  | zero =>
    rw [makeDirectoriesWithin]
    split
    · exact opens_of_ensureDirectory (by assumption)
    · exact Opens.refl
  | succ depth ih =>
    rw [makeDirectoriesWithin]
    split
    · exact opens_of_ensureDirectory (by assumption)
    · split
      · have habove := (ih p.parent).mono (stops_parent_subset p)
        split
        · rename_i hmade
          rwa [hmade] at habove
        · rename_i hmade
          rw [hmade] at habove
          split
          · exact habove.trans (opens_of_ensureDirectory (by assumption))
          · exact habove
      · exact Opens.refl

/-- When making directories succeeds, the directory stands, and its path is usable. The step that makes
the directory itself shows it. -/
theorem makeDirectoriesWithin_stands {depth : Nat} {tree : FileTree} {p : Path}
    (h : tree.makeDirectoriesWithin depth p = (made, .ok ())) :
    p.Usable ∧ made.Stands p := by
  cases depth with
  | zero =>
    rw [makeDirectoriesWithin] at h
    split at h
    · rename_i hmade
      obtain ⟨rfl, -⟩ := Prod.mk.inj h
      exact ensureDirectory_stands hmade
    · exact absurd h (by simp)
  | succ depth =>
    rw [makeDirectoriesWithin] at h
    split at h
    · rename_i hmade
      obtain ⟨rfl, -⟩ := Prod.mk.inj h
      exact ensureDirectory_stands hmade
    · split at h
      · split at h
        · exact absurd h (by simp)
        · split at h
          · rename_i hmade
            obtain ⟨rfl, -⟩ := Prod.mk.inj h
            exact ensureDirectory_stands hmade
          · exact absurd h (by simp)
      · exact absurd h (by simp)

/-- Where no stop of a usable path is a file, its directories are made. -/
theorem makeDirectoriesWithin_clear {depth : Nat} {p : Path} (hdepth : p.parts.length ≤ depth)
    (husable : p.Usable) (hclear : ∀ q ∈ p.stops, ¬ tree.HasFile q) :
    (tree.makeDirectoriesWithin depth p).2 = .ok () := by
  have hwayclear : ∀ q ∈ p.way, ¬ tree.HasFile q :=
    fun q hq => hclear q (List.mem_append_left _ hq)
  have hendclear : ¬ tree.HasFile p.resolved := hclear _ (by simp [Path.stops])
  induction depth generalizing p with
  | zero =>
    have hparts : p.parts = [] := List.length_eq_zero_iff.mp (by omega)
    have hreaches : tree.Reaches p := by simp [Reaches, Path.way, hparts, Path.wayFrom]
    obtain ⟨made, hmade⟩ := ensureDirectory_of_reaches husable hreaches hendclear
    rw [makeDirectoriesWithin, hmade]
  | succ depth ih =>
    rw [makeDirectoriesWithin]
    rcases stands_or_missing husable hwayclear with hreaches | hmissing
    · obtain ⟨made, hmade⟩ := ensureDirectory_of_reaches husable hreaches hendclear
      rw [hmade]
    · have hparts : p.parts ≠ [] := fun hparts => by
        have hnever : tree.Reaches p := by simp [Reaches, Path.way, hparts, Path.wayFrom]
        rw [locate_eq_ok.mpr ⟨husable, hnever, rfl⟩] at hmissing
        exact absurd hmissing (by simp)
      -- the parent's stops are the way of the path, and making them puts no file on it
      have habove := ih (p := p.parent) (by simp [Path.parent]; omega) husable.parent
        (fun q hq => hwayclear q (Path.way_eq_stops_parent hparts ▸ hq))
        (fun q hq => hwayclear q (Path.way_eq_stops_parent hparts ▸ List.mem_append_left _ hq))
        (hwayclear _ (Path.way_eq_stops_parent hparts ▸ by simp [Path.stops]))
      have hopens := makeDirectoriesWithin_opens depth tree p.parent
      cases hmade : tree.makeDirectoriesWithin depth p.parent with
      | mk above outcome =>
        rw [hmade] at habove hopens
        obtain rfl : outcome = .ok () := habove
        have hreaches : above.Reaches p :=
          (reaches_iff_parent hparts).mpr (makeDirectoriesWithin_stands hmade).2
        obtain ⟨made, hlast⟩ := ensureDirectory_of_reaches husable hreaches
          (fun hfile => hendclear (hopens.hasFile.mp hfile))
        simp only [ensureDirectory_missing hmissing, hlast, beq_self_eq_true, if_true]

/-! ## Writing files -/

/-- A file is written where the way stands and no directory stands at its end. -/
theorem write_eq_ok {p : Path} {bytes : List UInt8} {written : FileTree} :
    tree.write p bytes = .ok written ↔ p.Usable ∧ tree.Reaches p ∧
      tree.at? p.resolved ≠ some .directory ∧ written = tree.put p.resolved (.file bytes) := by
  rw [write]
  constructor
  · intro h
    split at h
    · exact absurd h (by simp)
    · rename_i place hlocate
      obtain ⟨husable, hreaches, rfl⟩ := locate_eq_ok.mp hlocate
      split at h
      · exact absurd h (by simp)
      · rename_i hvacant
        exact ⟨husable, hreaches, hvacant, (Except.ok.inj h).symm⟩
  · rintro ⟨husable, hreaches, hvacant, rfl⟩
    simp only [locate_eq_ok.mpr ⟨husable, hreaches, rfl⟩]

/-- What writing files at the `outputs` may do to a place. A file does not come to stand on its own
way, where its directories are. -/
inductive Change (outputs : Path → Prop) (tree grown : FileTree) (place : Path) : Prop where
  | same (hsame : grown.at? place = tree.at? place)
  | opened (p : Path) (hp : outputs p) (hway : place ∈ p.way) (hbefore : tree.at? place = none)
      (hafter : grown.at? place = some .directory)
  | written (p : Path) (hp : outputs p) (hplace : place = p.resolved) (hway : place ∉ p.way)
      (hbefore : tree.at? place ≠ some .directory) (hafter : grown.HasFile place)

/-- Writing files at the `outputs` may make the second tree of the first. -/
def Grows (outputs : Path → Prop) (tree grown : FileTree) : Prop :=
  ∀ place, Change outputs tree grown place

namespace Grows

variable {outputs more : Path → Prop} {next : FileTree}

theorem refl : Grows outputs tree tree := fun _ => .same rfl

theorem mono (h : Grows outputs tree grown) (hsub : ∀ p, outputs p → more p) :
    Grows more tree grown := by
  intro place
  cases h place with
  | same hsame => exact .same hsame
  | opened p hp hway hbefore hafter => exact .opened p (hsub p hp) hway hbefore hafter
  | written p hp hplace hway hbefore hafter =>
    exact .written p (hsub p hp) hplace hway hbefore hafter

theorem of_opens {p : Path} (hp : outputs p) (h : Opens p.way tree grown) :
    Grows outputs tree grown := by
  intro place
  rcases h place with hsame | ⟨hway, hbefore, hafter⟩
  · exact .same hsame
  · exact .opened p hp hway hbefore hafter

/-- A directory stays one. -/
theorem directory (h : Grows outputs tree grown) {q : Path} (hq : tree.at? q = some .directory) :
    grown.at? q = some .directory := by
  cases h q with
  | same hsame => rw [hsame, hq]
  | opened p hp hway hbefore hafter => exact hafter
  | written p hp hplace hway hbefore hafter => exact absurd hq hbefore

/-- A file stays one, maybe with other bytes. -/
theorem hasFile (h : Grows outputs tree grown) {q : Path} (hq : tree.HasFile q) :
    grown.HasFile q := by
  obtain ⟨bytes, hbytes⟩ := hq
  cases h q with
  | same hsame => exact ⟨bytes, hsame.trans hbytes⟩
  | opened p hp hway hbefore hafter => exact absurd (hbefore.symm.trans hbytes) (by simp)
  | written p hp hplace hway hbefore hafter => exact hafter

theorem reaches (h : Grows outputs tree grown) {p : Path} (hp : tree.Reaches p) : grown.Reaches p :=
  fun q hq => h.directory (hp q hq)

theorem trans (h : Grows outputs tree grown) (hnext : Grows outputs grown next) :
    Grows outputs tree next := by
  intro place
  cases hnext place with
  | same hsame =>
    cases h place with
    | same hfirst => exact .same (hsame.trans hfirst)
    | opened p hp hway hbefore hafter =>
      exact .opened p hp hway hbefore (hsame.trans hafter)
    | written p hp hplace hway hbefore hafter =>
      exact .written p hp hplace hway hbefore (hafter.imp fun _ hbytes => hsame.trans hbytes)
  | opened p hp hway hbefore hafter =>
    refine .opened p hp hway ?_ hafter
    -- what stands in the first tree would stand in the second
    match hat : tree.at? place with
    | none => rfl
    | some .directory => exact absurd (hbefore.symm.trans (h.directory hat)) (by simp)
    | some (.file bytes) =>
      obtain ⟨_, hstays⟩ := h.hasFile ⟨bytes, hat⟩
      exact absurd (hbefore.symm.trans hstays) (by simp)
  | written p hp hplace hway hbefore hafter =>
    exact .written p hp hplace hway (fun hat => hbefore (h.directory hat)) hafter

/-- Writing a file where the way stands. -/
theorem of_write {p : Path} {bytes : List UInt8} (hp : outputs p)
    (h : tree.write p bytes = .ok grown) : Grows outputs tree grown := by
  obtain ⟨-, hreaches, hvacant, rfl⟩ := write_eq_ok.mp h
  intro place
  by_cases hplace : place = p.resolved ∧ ¬ place.isAnchor
  · obtain ⟨rfl, hanchor⟩ := hplace
    -- the directories on the way are not the place that is vacant
    refine .written p hp rfl (fun hway => hvacant (hreaches _ hway)) hvacant ⟨bytes, ?_⟩
    rw [at?_put, if_pos ⟨rfl, hanchor⟩]
  · exact .same (by rw [at?_put, if_neg hplace])

/-- What stands at a place stays as it is if no output comes to stand there. -/
theorem at?_eq (h : Grows outputs tree grown) {q : Path} (hstands : tree.at? q ≠ none)
    (hapart : ∀ p, outputs p → q ≠ p.resolved) : grown.at? q = tree.at? q := by
  cases h q with
  | same hsame => exact hsame
  | opened p hp hway hbefore hafter => exact absurd hbefore hstands
  | written p hp hplace hway hbefore hafter => exact absurd hplace (hapart p hp)

end Grows

/-- Writing a file changes one place alone. -/
theorem at?_of_write {p q : Path} {bytes : List UInt8} (h : tree.write p bytes = .ok grown) :
    grown.at? q = if q = p.resolved then some (.file bytes) else tree.at? q := by
  obtain ⟨-, -, hvacant, rfl⟩ := write_eq_ok.mp h
  have hanchor : ¬ p.resolved.isAnchor := fun hanchor => hvacant (by rw [at?, if_pos hanchor])
  rw [at?_put]
  by_cases hq : q = p.resolved
  · rw [if_pos hq, if_pos ⟨hq, hq ▸ hanchor⟩]
  · rw [if_neg hq, if_neg fun h => hq h.1]

/-- What was written is read. -/
theorem read_of_write {p : Path} {bytes : List UInt8} (h : tree.write p bytes = .ok grown) :
    grown.read p = .ok bytes := by
  have hgrows : Grows (· = p) tree grown := .of_write rfl h
  have hat : grown.at? p.resolved = some (.file bytes) := by rw [at?_of_write h, if_pos rfl]
  obtain ⟨husable, hreaches, -, -⟩ := write_eq_ok.mp h
  simp only [read, locate_eq_ok.mpr ⟨husable, hgrows.reaches hreaches, rfl⟩, hat]

/-! ## What files hold -/

/-- The bytes of the file that stands at a place. -/
def bytes? (tree : FileTree) (place : Path) : Option (List UInt8) :=
  match tree.at? place with
  | some (.file bytes) => some bytes
  | _ => none

/-- Opening directories changes no file. -/
theorem Opens.bytes?_eq {places : List Path} (h : Opens places tree made) :
    made.bytes? = tree.bytes? := by
  funext q
  rcases h q with hsame | ⟨-, hnone, hdirectory⟩
  · rw [bytes?, bytes?, hsame]
  · rw [bytes?, bytes?, hnone, hdirectory]

/-- Writing a file changes that file alone. -/
theorem bytes?_of_write {p : Path} {bytes : List UInt8} (h : tree.write p bytes = .ok grown) :
    grown.bytes? = Function.update tree.bytes? p.resolved (some bytes) := by
  funext q
  by_cases hq : q = p.resolved
  · rw [bytes?, at?_of_write h, if_pos hq, hq, Function.update_self]
  · rw [bytes?, at?_of_write h, if_neg hq, Function.update_of_ne hq, bytes?]

/-- What is read is kept when other files are written. -/
theorem read_of_grows {p : Path} {bytes : List UInt8} {outputs : Path → Prop}
    (h : tree.read p = .ok bytes) (hgrows : Grows outputs tree grown)
    (hapart : ∀ q, outputs q → p.resolved ≠ q.resolved) : grown.read p = .ok bytes := by
  obtain ⟨hreaches, hat⟩ := read_eq_ok h
  rw [← h]
  exact read_congr (hgrows.reaches hreaches) hreaches (hgrows.at?_eq (by simp [hat]) hapart)

/-! ## Trees that admit a file -/

/-- A file can be written at the path once its directories are made. -/
structure Admits (tree : FileTree) (p : Path) : Prop where
  usable : p.Usable
  clear : ∀ q ∈ p.way, ¬ tree.HasFile q
  apart : p.resolved ∉ p.way
  vacant : tree.at? p.resolved ≠ some .directory

/-- A file that is not in the way does not matter. -/
theorem admits_without {place p : Path} (hfile : tree.HasFile place)
    (hapart : place ≠ p.resolved ∧ place ∉ p.way) :
    (tree.without place).Admits p ↔ tree.Admits p := by
  have hclear : (∀ q ∈ p.way, ¬ (tree.without place).HasFile q) ↔ ∀ q ∈ p.way, ¬ tree.HasFile q := by
    refine forall₂_congr fun q hq => not_congr (hasFile_without ?_)
    rintro rfl
    exact hapart.2 hq
  have hvacant : (tree.without place).at? p.resolved ≠ some .directory ↔
      tree.at? p.resolved ≠ some .directory := not_congr (directory_without hfile)
  constructor
  · intro h
    exact ⟨h.usable, hclear.mp h.clear, h.apart, hvacant.mp h.vacant⟩
  · intro h
    exact ⟨h.usable, hclear.mpr h.clear, h.apart, hvacant.mpr h.vacant⟩

/-- No output stands on the way of another, unless it stands on its own. -/
def Separated (outputs : Path → Prop) : Prop :=
  ∀ p q, outputs p → outputs q → p.resolved ∈ q.way → p.resolved ∈ p.way

/-- **Separated outputs are admitted or not whatever of them is written before.** -/
theorem Grows.admits_iff {outputs : Path → Prop} (h : Grows outputs tree grown)
    (hseparated : Separated outputs) {p : Path} (hp : outputs p) :
    grown.Admits p ↔ tree.Admits p := by
  constructor
  · intro hadmits
    exact ⟨hadmits.usable, fun q hq hfile => hadmits.clear q hq (h.hasFile hfile), hadmits.apart,
      fun hat => hadmits.vacant (h.directory hat)⟩
  · intro hadmits
    refine ⟨hadmits.usable, ?_, hadmits.apart, ?_⟩
    · intro q hq hfile
      cases h q with
      | same hsame => exact hadmits.clear q hq (hfile.imp fun _ hbytes => hsame.symm.trans hbytes)
      | opened r hr hway hbefore hafter =>
        obtain ⟨_, hbytes⟩ := hfile
        exact absurd (hafter.symm.trans hbytes) (by simp)
      | written r hr hplace hway hbefore hafter =>
        subst hplace
        exact hway (hseparated r p hr hp hq)
    · intro hat
      cases h p.resolved with
      | same hsame => exact hadmits.vacant (hsame.symm.trans hat)
      | opened r hr hway hbefore hafter => exact hadmits.apart (hseparated p r hp hr hway)
      | written r hr hplace hway hbefore hafter =>
        obtain ⟨_, hbytes⟩ := hafter
        exact absurd (hat.symm.trans hbytes) (by simp)

end PageObjects.FileTree
