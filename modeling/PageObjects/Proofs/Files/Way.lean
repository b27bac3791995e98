import PageObjects.Files.Tree

/-!
# The way of a path

The components of a path lead from place to place. Where a path leads does not depend on the tree:
it is the resolved path. Whether it leads anywhere depends on the tree only through the places on
the way, which all have to be directories, and otherwise on the path alone, which has to be
`Path.Usable`.

* `FileTree.locate_eq_ok`: a path leads to a place exactly if it is usable and its way stands.
* `FileTree.locate_congr`: trees in which the way stands locate the path alike.
* `FileTree.stands_or_missing`: a usable path whose way meets no file leads to its place, or
  something on the way is missing.
-/

namespace PageObjects

namespace Path

/-- The places that components lead over from `here`, without the last. -/
def wayFrom : Path → List String → List Path
  | _, [] => []
  | here, component :: rest => here :: wayFrom (here.step component) rest

/-- The places where directories have to stand for a path to lead anywhere. -/
def way (p : Path) : List Path := wayFrom { p with parts := [] } p.parts

/-- The places where directories have to stand for a path to be that of a directory. -/
def stops (p : Path) : List Path := p.way ++ [p.resolved]

theorem wayFrom_append (here : Path) (front back : List String) :
    wayFrom here (front ++ back) = wayFrom here front ++ wayFrom (front.foldl step here) back := by
  induction front generalizing here with
  | nil => rfl
  | cons component front ih =>
    rw [List.cons_append, wayFrom, wayFrom, ih, List.foldl_cons, List.cons_append]

/-- Further components lead on from the place that the path before them leads to. -/
theorem resolved_append (p : Path) (rest : List String) :
    { p with parts := p.parts ++ rest }.resolved = rest.foldl step p.resolved := by
  rw [resolved, List.foldl_append, resolved]

theorem way_append (p : Path) (rest : List String) :
    { p with parts := p.parts ++ rest }.way = p.way ++ wayFrom p.resolved rest := by
  rw [way, wayFrom_append, way, resolved]

theorem resolved_child (p : Path) (name : String) : (p.child name).resolved = p.resolved.step name :=
  resolved_append p [name]

theorem way_child (p : Path) (name : String) : (p.child name).way = p.stops :=
  way_append p [name]

theorem parent_child (p : Path) (name : String) : (p.child name).parent = p := by
  rw [child, parent, List.dropLast_concat]

/-- A path with components is its parent with one component more. -/
theorem child_parent {p : Path} (h : p.parts ≠ []) : p.parent.child p.name = p := by
  have hparts : p.parts.dropLast ++ [p.parts.getLastD ""] = p.parts := by
    rw [List.getLastD_eq_getLast?, List.getLast?_eq_some_getLast h, Option.getD_some,
      List.dropLast_concat_getLast h]
  rw [child, parent, name, hparts]

/-- The way of a path leads over its parent. -/
theorem way_eq_stops_parent {p : Path} (h : p.parts ≠ []) : p.way = p.parent.stops := by
  rw [← way_child p.parent p.name, child_parent h]

theorem step_of_ne (p : Path) {name : String} (h : name ≠ "..") : p.step name = p.child name := by
  rw [step, beq_false_of_ne h, if_neg Bool.false_ne_true]

/-- Components that do not lead up stand in the place they lead to. -/
theorem foldl_step_of_notMem (here : Path) {rest : List String} (h : ".." ∉ rest) :
    rest.foldl step here = { here with parts := here.parts ++ rest } := by
  induction rest generalizing here with
  | nil => rw [List.foldl_nil, List.append_nil]
  | cons component rest ih =>
    have hne : component ≠ ".." := fun he => h (by simp [he])
    have hrest : ".." ∉ rest := fun hmem => h (List.mem_cons_of_mem component hmem)
    rw [List.foldl_cons, step_of_ne here hne, ih _ hrest, child, List.append_assoc,
      List.singleton_append]

/-- Components that do not lead up pass by the places of the paths in front of them. -/
theorem mem_wayFrom {here q : Path} {rest : List String} (h : ".." ∉ rest)
    (hq : q ∈ wayFrom here rest) : ∃ front back, rest = front ++ back ∧ back ≠ [] ∧
      q = { here with parts := here.parts ++ front } := by
  induction rest generalizing here with
  | nil => exact absurd hq (by simp [wayFrom])
  | cons component rest ih =>
    rw [List.mem_cons, not_or] at h
    rw [wayFrom, step_of_ne here (Ne.symm h.1), List.mem_cons] at hq
    rcases hq with rfl | hq
    · exact ⟨[], component :: rest, rfl, by simp, by rw [List.append_nil]⟩
    · obtain ⟨front, back, rfl, hback, rfl⟩ := ih h.2 hq
      exact ⟨component :: front, back, rfl, hback, by simp [child]⟩

/-! ## Paths that operations take -/

/-- The path can be used where its way stands: it holds no null character, and neither it nor one of
its components is too long. -/
structure Usable (p : Path) : Prop where
  noNull : p.hasNull = false
  short : FileTree.isTooLong p = false
  fits : ∀ component ∈ p.parts, component.utf8ByteSize ≤ FileTree.nameLimit

theorem size_intercalate_dropLast (separator : String) (parts : List String) :
    (separator.intercalate parts.dropLast).utf8ByteSize ≤
      (separator.intercalate parts).utf8ByteSize := by
  rcases List.eq_nil_or_concat parts with rfl | ⟨front, last, rfl⟩
  · simp
  · rw [List.concat_eq_append, List.dropLast_concat]
    by_cases hfront : front = []
    · simp [hfront]
    · rw [String.intercalate_append_of_ne_nil hfront (by simp)]
      simp only [String.utf8ByteSize_append]
      omega

/-- The text of the parent is not longer, but for the point that the empty path is written as. -/
theorem size_text_parent (p : Path) :
    p.parent.text.utf8ByteSize ≤ max 1 p.text.utf8ByteSize := by
  have hsize := size_intercalate_dropLast "/" p.parts
  have hpoint : ".".utf8ByteSize = 1 := rfl
  by_cases hempty : p.parent.start.isEmpty && p.parent.parts.isEmpty
  · rw [text, if_pos hempty, hpoint]
    exact Nat.le_max_left _ _
  · have hp : ¬ (p.start.isEmpty && p.parts.isEmpty) := by
      simp only [Bool.and_eq_true, List.isEmpty_iff, not_and] at hempty ⊢
      exact fun hstart hparts => hempty hstart (by rw [parent, hparts, List.dropLast_nil])
    rw [text, if_neg hempty, text, if_neg hp, String.utf8ByteSize_append,
      String.utf8ByteSize_append]
    have hparts : ("/".intercalate p.parent.parts).utf8ByteSize ≤
      ("/".intercalate p.parts).utf8ByteSize := hsize
    have hstart : p.parent.start = p.start := rfl
    rw [hstart]
    omega

/-- What holds a directory that can be used can be used. -/
theorem Usable.parent {p : Path} (h : p.Usable) : p.parent.Usable := by
  refine ⟨?_, ?_, fun component hmem => h.fits component (List.dropLast_subset _ hmem)⟩
  · have hnull := h.noNull
    simp only [hasNull, List.any_eq_false] at hnull ⊢
    exact fun part hpart => hnull part (List.dropLast_subset _ hpart)
  · have hshort := h.short
    have hsize := size_text_parent p
    have hlimit : ¬ FileTree.pathLimit < p.text.utf8ByteSize := of_decide_eq_false hshort
    have hpoint : 1 ≤ FileTree.pathLimit := by decide
    exact decide_eq_false (by omega)

end Path

namespace FileTree

variable {tree other : FileTree}

/-- Directories stand everywhere on the way of the path. -/
def Reaches (tree : FileTree) (p : Path) : Prop := ∀ place ∈ p.way, tree.at? place = some .directory

/-- A directory stands at the path, and on its way. -/
def Stands (tree : FileTree) (p : Path) : Prop := ∀ place ∈ p.stops, tree.at? place = some .directory

/-- A file stands at the place. -/
def HasFile (tree : FileTree) (place : Path) : Prop := ∃ bytes, tree.at? place = some (.file bytes)

theorem stands_iff {p : Path} :
    tree.Stands p ↔ tree.Reaches p ∧ tree.at? p.resolved = some .directory := by
  simp only [Stands, Reaches, Path.stops, List.mem_append, List.mem_singleton, or_imp, forall_and,
    forall_eq]

theorem reaches_child {p : Path} {name : String} : tree.Reaches (p.child name) ↔ tree.Stands p := by
  rw [Reaches, Path.way_child, Stands]

/-- A path is reached where its parent stands. -/
theorem reaches_iff_parent {p : Path} (h : p.parts ≠ []) : tree.Reaches p ↔ tree.Stands p.parent := by
  rw [Reaches, Path.way_eq_stops_parent h, Stands]

/-! ## Following components -/

theorem follow_eq_ok {here place : Path} {parts : List String} :
    tree.follow here parts = .ok place ↔
      (∀ q ∈ Path.wayFrom here parts, tree.at? q = some .directory) ∧
        (∀ component ∈ parts, component.utf8ByteSize ≤ nameLimit) ∧
        place = parts.foldl Path.step here := by
  induction parts generalizing here with
  | nil => simp [follow, Path.wayFrom, eq_comm]
  | cons component rest ih =>
    rw [Path.wayFrom, List.forall_mem_cons, List.forall_mem_cons, List.foldl_cons, follow]
    split
    · rename_i hhere
      by_cases hlong : nameLimit < component.utf8ByteSize
      · rw [if_pos hlong]
        exact ⟨fun h => absurd h (by simp), fun h => absurd h.2.1.1 (by omega)⟩
      · rw [if_neg hlong, ih]
        exact ⟨fun ⟨hway, hfits, hplace⟩ => ⟨⟨hhere, hway⟩, ⟨by omega, hfits⟩, hplace⟩,
          fun ⟨⟨_, hway⟩, ⟨_, hfits⟩, hplace⟩ => ⟨hway, hfits, hplace⟩⟩
    · rename_i hhere
      exact ⟨fun h => absurd h (by simp), fun h => absurd h.1.1 (by simp [hhere])⟩
    · rename_i hhere
      exact ⟨fun h => absurd h (by simp), fun h => absurd h.1.1 (by simp [hhere])⟩

/-- Where the way stands, what the components lead to depends on them alone. -/
theorem follow_of_reaches {here : Path} {parts : List String}
    (h : ∀ q ∈ Path.wayFrom here parts, tree.at? q = some .directory) :
    tree.follow here parts =
      if parts.all (·.utf8ByteSize ≤ nameLimit) then .ok (parts.foldl Path.step here)
      else .error .nameTooLong := by
  induction parts generalizing here with
  | nil => rfl
  | cons component rest ih =>
    rw [Path.wayFrom, List.forall_mem_cons] at h
    rw [follow, h.1]
    by_cases hlong : nameLimit < component.utf8ByteSize
    · have hnot : ¬ component.utf8ByteSize ≤ nameLimit := by omega
      simp [hlong, hnot]
    · have hfits : component.utf8ByteSize ≤ nameLimit := by omega
      simp only [if_neg hlong, ih h.2, List.all_cons, hfits, decide_true, Bool.true_and,
        List.foldl_cons]

/-- Components that fit and lead over no file lead to their place, or something is missing. -/
theorem follow_missing {here : Path} {parts : List String}
    (hfits : ∀ component ∈ parts, component.utf8ByteSize ≤ nameLimit)
    (hclear : ∀ q ∈ Path.wayFrom here parts, ¬ tree.HasFile q) :
    (∀ q ∈ Path.wayFrom here parts, tree.at? q = some .directory) ∨
      tree.follow here parts = .error .notFound := by
  induction parts generalizing here with
  | nil => exact .inl (by simp [Path.wayFrom])
  | cons component rest ih =>
    rw [List.forall_mem_cons] at hfits
    rw [Path.wayFrom, List.forall_mem_cons] at hclear
    rw [Path.wayFrom, List.forall_mem_cons, follow]
    split
    · rename_i hhere
      rw [if_neg (by omega)]
      exact (ih hfits.2 hclear.2).imp_left fun hrest => ⟨hhere, hrest⟩
    · rename_i bytes hhere
      exact absurd ⟨bytes, hhere⟩ hclear.1
    · exact .inr rfl

/-! ## Places of paths -/

/-- **A path leads to a place exactly if it is usable and its way stands**, and then to the place of
the resolved path. -/
theorem locate_eq_ok {p place : Path} :
    tree.locate p = .ok place ↔ p.Usable ∧ tree.Reaches p ∧ place = p.resolved := by
  rw [locate]
  by_cases hnull : p.hasNull
  · rw [if_pos hnull]
    exact ⟨fun h => absurd h (by simp), fun h => absurd h.1.noNull (by simp [hnull])⟩
  · rw [if_neg hnull]
    by_cases hlong : isTooLong p
    · rw [if_pos hlong]
      exact ⟨fun h => absurd h (by simp), fun h => absurd h.1.short (by simp [hlong])⟩
    · rw [if_neg hlong, follow_eq_ok]
      constructor
      · rintro ⟨hway, hfits, hplace⟩
        exact ⟨⟨by simpa using hnull, by simpa using hlong, hfits⟩, hway, hplace⟩
      · rintro ⟨husable, hway, hplace⟩
        exact ⟨hway, husable.fits, hplace⟩

/-- Trees in which the way of a path stands locate it alike, also if it cannot be used. -/
theorem locate_congr {p : Path} (h : tree.Reaches p) (hother : other.Reaches p) :
    tree.locate p = other.locate p := by
  rw [locate, locate, follow_of_reaches h, follow_of_reaches hother]

/-- A usable path whose way meets no file leads to its place, or something on the way is missing. -/
theorem stands_or_missing {p : Path} (husable : p.Usable) (hclear : ∀ q ∈ p.way, ¬ tree.HasFile q) :
    tree.Reaches p ∨ tree.locate p = .error .notFound := by
  rw [locate, husable.noNull, husable.short, if_neg Bool.false_ne_true, if_neg Bool.false_ne_true]
  exact follow_missing husable.fits hclear

/-- What is read is a file at the end of a way that stands. -/
theorem read_eq_ok {p : Path} {bytes : List UInt8} (h : tree.read p = .ok bytes) :
    tree.Reaches p ∧ tree.at? p.resolved = some (.file bytes) := by
  rw [read] at h
  split at h
  · exact absurd h (by simp)
  · rename_i place hlocate
    obtain ⟨-, hreaches, rfl⟩ := locate_eq_ok.mp hlocate
    split at h
    · rename_i hat
      obtain rfl := Except.ok.inj h
      exact ⟨hreaches, hat⟩
    · exact absurd h (by simp)
    · exact absurd h (by simp)

/-- Trees in which the way of a path stands, and the same stands at its end, read it alike. -/
theorem read_congr {p : Path} (h : tree.Reaches p) (hother : other.Reaches p)
    (hat : tree.at? p.resolved = other.at? p.resolved) : tree.read p = other.read p := by
  rw [read, read, locate_congr h hother]
  cases hlocate : other.locate p with
  | error fault => rfl
  | ok place =>
    obtain ⟨-, -, rfl⟩ := locate_eq_ok.mp hlocate
    simp only [hat]

end FileTree
end PageObjects
