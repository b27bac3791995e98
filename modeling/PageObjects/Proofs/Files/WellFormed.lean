import Mathlib.Data.List.Induction
import PageObjects.Proofs.Association
import PageObjects.Proofs.Files.Way

/-!
# Well-formed trees

A list of places and nodes is a tree of files when it lists no place twice and everything in it stands
in a directory, under a name that is a single component. Anchors are directories whether or not they
are listed.

* `FileTree.WellFormed`: the condition.
* `FileTree.WellFormed.directory_of_prefix`: what lies above a directory is a directory.
* `FileTree.without`: the tree without a place, and that removing a file removes no directory.
-/

namespace PageObjects.FileTree

variable {tree : FileTree}

/-- The list is a tree of files. -/
structure WellFormed (tree : FileTree) : Prop where
  distinct : (tree.map Prod.fst).Nodup
  notUp : ∀ entry ∈ tree, ¬ entry.1.isAnchor → entry.1.name ≠ ".."
  noSlash : ∀ entry ∈ tree, ¬ entry.1.isAnchor → '/' ∉ entry.1.name.toList
  rooted : ∀ entry ∈ tree, ¬ entry.1.isAnchor → tree.at? entry.1.parent = some .directory

theorem mem_of_at? {q : Path} {node : Node} (hat : tree.at? q = some node) (hq : ¬ q.isAnchor) :
    (q, node) ∈ tree := by
  rw [at?, if_neg hq] at hat
  exact mem_of_lookup hat

/-- What is listed at a place is what stands there. -/
theorem WellFormed.at?_of_mem (htree : tree.WellFormed) {q : Path} {node : Node}
    (hmem : (q, node) ∈ tree) (hq : ¬ q.isAnchor) : tree.at? q = some node := by
  rw [at?, if_neg hq]
  obtain ⟨before, after, rfl⟩ := List.append_of_mem hmem
  refine List.lookup_eq_some_iff.mpr ⟨before, after, rfl, fun entry hentry => ?_⟩
  have hdistinct := htree.distinct
  rw [List.map_append, List.map_cons, List.nodup_append] at hdistinct
  have hne := hdistinct.2.2 entry.1 (List.mem_map_of_mem hentry) q (by simp)
  simpa using Ne.symm hne

theorem not_isAnchor_of_name {here : Path} {front : List String} {name : String} (h : name ≠ "..") :
    ¬ Path.isAnchor { here with parts := here.parts ++ (front ++ [name]) } := by
  simp [Path.isAnchor, h]

/-- **What lies above a directory is a directory**, down to any place in front of it. -/
theorem WellFormed.directory_of_prefix (htree : tree.WellFormed) {here : Path}
    {front back : List String} (hup : ".." ∉ front ++ back)
    (hat : tree.at? { here with parts := here.parts ++ (front ++ back) } = some .directory) :
    tree.at? { here with parts := here.parts ++ front } = some .directory := by
  induction back using List.reverseRecOn with
  | nil => rwa [List.append_nil] at hat
  | append_singleton back name ih =>
    rw [← List.append_assoc front] at hat hup
    have hname : name ≠ ".." := fun he => hup (by simp [he])
    have hanchor : ¬ Path.isAnchor { here with parts := here.parts ++ (front ++ back ++ [name]) } :=
      not_isAnchor_of_name hname
    have hparent := htree.rooted _ (mem_of_at? hat hanchor) hanchor
    have habove : Path.parent { here with parts := here.parts ++ (front ++ back ++ [name]) } =
        { here with parts := here.parts ++ (front ++ back) } := by
      rw [Path.parent, ← List.append_assoc, List.dropLast_concat]
    rw [habove] at hparent
    exact ih (fun hmem => hup (List.mem_append_left _ hmem)) hparent

/-- Components that lead to a directory and not up hold no slash. -/
theorem WellFormed.noSlash_of_directory (htree : tree.WellFormed) {here : Path}
    {rest : List String} (hup : ".." ∉ rest)
    (hat : tree.at? { here with parts := here.parts ++ rest } = some .directory) :
    ∀ name ∈ rest, '/' ∉ name.toList := by
  intro name hmem
  obtain ⟨front, back, rfl⟩ := List.append_of_mem hmem
  have hsplit : front ++ name :: back = (front ++ [name]) ++ back := by simp
  rw [hsplit] at hup hat
  have hname : name ≠ ".." := fun he => hup (by simp [he])
  have hanchor : ¬ Path.isAnchor { here with parts := here.parts ++ (front ++ [name]) } :=
    not_isAnchor_of_name hname
  have hslash := htree.noSlash _ (mem_of_at? (htree.directory_of_prefix hup hat) hanchor) hanchor
  simpa [Path.name] using hslash

/-! ## Removing a place -/

/-- The tree without what stands at a place. -/
def without (tree : FileTree) (place : Path) : FileTree := tree.filter fun entry => entry.1 != place

theorem lookup_without (tree : FileTree) (place q : Path) :
    (tree.without place).lookup q = if q = place then none else tree.lookup q := by
  unfold without
  induction tree with
  | nil => split <;> rfl
  | cons entry tree ih =>
    obtain ⟨listed, node⟩ := entry
    by_cases hlisted : listed = place
    · rw [List.filter_cons_of_neg (by simp [hlisted]), ih, List.lookup_cons]
      by_cases hq : q = place
      · rw [if_pos hq, if_pos hq]
      · rw [if_neg hq, if_neg hq, hlisted, beq_false_of_ne hq]
    · rw [List.filter_cons_of_pos (by simp [hlisted]), List.lookup_cons, List.lookup_cons, ih]
      by_cases hq : q = place
      · rw [if_pos hq, if_pos hq, hq, beq_false_of_ne (Ne.symm hlisted)]
      · rw [if_neg hq, if_neg hq]

theorem at?_without (tree : FileTree) (place q : Path) :
    (tree.without place).at? q = if q = place ∧ ¬ q.isAnchor then none else tree.at? q := by
  unfold at?
  by_cases hanchor : q.isAnchor
  · rw [if_pos hanchor, if_pos hanchor, if_neg fun h => h.2 hanchor]
  · rw [if_neg hanchor, if_neg hanchor, lookup_without]
    by_cases hq : q = place
    · rw [if_pos hq, if_pos ⟨hq, hanchor⟩]
    · rw [if_neg hq, if_neg fun h => hq h.1]

theorem at?_without_of_ne {place q : Path} (h : q ≠ place) :
    (tree.without place).at? q = tree.at? q := by
  rw [at?_without, if_neg fun hq => h hq.1]

theorem hasFile_without {place q : Path} (h : q ≠ place) :
    (tree.without place).HasFile q ↔ tree.HasFile q := by
  rw [HasFile, HasFile, at?_without_of_ne h]

section File

variable {place : Path} (hfile : tree.HasFile place)
include hfile

theorem not_isAnchor_of_hasFile : ¬ place.isAnchor := by
  intro hanchor
  obtain ⟨bytes, hbytes⟩ := hfile
  rw [at?, if_pos hanchor] at hbytes
  exact absurd hbytes (by simp)

theorem at?_without_self : (tree.without place).at? place = none := by
  rw [at?_without, if_pos ⟨rfl, not_isAnchor_of_hasFile hfile⟩]

/-- Where a file is removed, every directory stays. -/
theorem directory_without {q : Path} :
    (tree.without place).at? q = some .directory ↔ tree.at? q = some .directory := by
  by_cases hq : q = place
  · obtain ⟨bytes, hbytes⟩ := hfile
    rw [hq, at?_without_self ⟨bytes, hbytes⟩, hbytes]
    simp
  · rw [at?_without_of_ne hq]

theorem reaches_without {p : Path} : (tree.without place).Reaches p ↔ tree.Reaches p :=
  forall₂_congr fun _ _ => directory_without hfile

end File

end PageObjects.FileTree
