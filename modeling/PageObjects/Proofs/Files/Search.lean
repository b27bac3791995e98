import Mathlib.Data.List.Basic
import PageObjects.Files.Pattern
import PageObjects.Proofs.Except
import PageObjects.Proofs.Files.WellFormed
import PageObjects.Proofs.Text.Parts

/-!
# What a search finds

A search goes from directory to directory by what it lists there, so that whatever it finds is there,
below the directory that it starts from. Removing one file from the tree removes the paths that lead
to it from what is found, and nothing else.

* `Pattern.Starts`: the paths that a search for components can go on from.
* `Pattern.mem_select`: what is found is there.
* `Pattern.select_without`, `Pattern.find_without`: a search in the tree without a file.
-/

namespace PageObjects

namespace Path

/-- The second path leads on from the first by components that hold no slash. -/
def LeadsOn (p q : Path) : Prop :=
  q.start = p.start ∧ ∃ names, q.parts = p.parts ++ names ∧ ∀ name ∈ names, '/' ∉ name.toList

theorem LeadsOn.refl {p : Path} : p.LeadsOn p := ⟨rfl, [], by simp, by simp⟩

theorem LeadsOn.trans {p q r : Path} (h : p.LeadsOn q) (h' : q.LeadsOn r) : p.LeadsOn r := by
  obtain ⟨hstart, names, hparts, hnames⟩ := h
  obtain ⟨hstart', more, hparts', hmore⟩ := h'
  refine ⟨hstart'.trans hstart, names ++ more, by rw [hparts', hparts, List.append_assoc], ?_⟩
  intro name hname
  rcases List.mem_append.mp hname with hfront | hback
  · exact hnames name hfront
  · exact hmore name hback

theorem child_name (p : Path) (name : String) : (p.child name).name = name := by
  rw [Path.name, child, List.getLastD_concat]

theorem leadsOn_child {p : Path} {name : String} (h : '/' ∉ name.toList) :
    p.LeadsOn (p.child name) :=
  ⟨rfl, [name], rfl, fun _ hname => List.mem_singleton.mp hname ▸ h⟩

/-- What lies under a place is reached from it by components that do not lead up. -/
theorem isWithin_iff {q p : Path} :
    q.isWithin p = true ↔ ∃ rest, ".." ∉ rest ∧ q = { p with parts := p.parts ++ rest } := by
  simp only [isWithin, Bool.and_eq_true, beq_iff_eq, List.isPrefixOf_iff_prefix,
    Bool.not_eq_true', List.contains_eq_mem, decide_eq_false_iff_not]
  constructor
  · rintro ⟨⟨hstart, rest, hrest⟩, hup⟩
    refine ⟨rest, ?_, ?_⟩
    · rwa [← hrest, List.drop_left] at hup
    · rw [← hstart, hrest]
  · rintro ⟨rest, hup, rfl⟩
    exact ⟨⟨rfl, List.prefix_append _ _⟩, by rwa [List.drop_left]⟩

end Path

namespace FileTree

variable {tree : FileTree} {p place : Path}

/-- Something stands at the path. -/
structure Found (tree : FileTree) (p : Path) : Prop where
  reaches : tree.Reaches p
  present : tree.at? p.resolved ≠ none

theorem Stands.found (h : tree.Stands p) : tree.Found p := by
  obtain ⟨hreaches, hat⟩ := stands_iff.mp h
  exact ⟨hreaches, by simp [hat]⟩

theorem Stands.ne_of_hasFile (h : tree.Stands p) (hfile : tree.HasFile place) :
    p.resolved ≠ place := by
  rintro rfl
  obtain ⟨bytes, hbytes⟩ := hfile
  exact absurd ((stands_iff.mp h).2.symm.trans hbytes) (by simp)

/-- What is listed at a place where a file stands is a file. -/
theorem WellFormed.ne_directory (htree : tree.WellFormed) (hfile : tree.HasFile place)
    {entry : Path × Node} (hmem : entry ∈ tree) (hplace : entry.1 = place) :
    entry.2 ≠ .directory := by
  intro hdirectory
  obtain ⟨bytes, hbytes⟩ := hfile
  have hat : tree.at? place = some .directory :=
    htree.at?_of_mem (hplace ▸ hdirectory ▸ hmem) (not_isAnchor_of_hasFile ⟨bytes, hbytes⟩)
  exact absurd (hat.symm.trans hbytes) (by simp)

/-! ## Looking -/

theorem look_eq_some {node : Node} (h : tree.look p = .ok (some node)) :
    tree.Reaches p ∧ tree.at? p.resolved = some node := by
  rw [look] at h
  split at h
  · rename_i place hlocate
    obtain ⟨-, hreaches, rfl⟩ := locate_eq_ok.mp hlocate
    exact ⟨hreaches, Except.ok.inj h⟩
  · exact absurd h (by simp)
  · exact absurd h (by simp)

/-- Where a file is removed, nothing is found any more, unless looking is an error; elsewhere the same
is found. -/
theorem look_without (hfile : tree.HasFile place) (hreaches : tree.Reaches p) :
    (tree.without place).look p =
      (tree.look p).map fun looked => if p.resolved = place then none else looked := by
  rw [look, look, locate_congr ((reaches_without hfile).mpr hreaches) hreaches]
  cases hlocate : tree.locate p with
  | error fault => cases fault <;> simp [Except.map]
  | ok q =>
    obtain ⟨-, -, rfl⟩ := locate_eq_ok.mp hlocate
    by_cases hplace : p.resolved = place
    · simp only [hplace, at?_without_self hfile, Except.map, if_true]
    · simp only [at?_without_of_ne hplace, Except.map, if_neg hplace]

/-- Without a file, following components leads where it led, or fails for another reason where the
file was in the way. -/
theorem follow_without (hfile : tree.HasFile place) {here : Path} {parts : List String} :
    (tree.without place).follow here parts = tree.follow here parts ∨
      (tree.follow here parts = .error .notDirectory ∧
        (tree.without place).follow here parts = .error .notFound) := by
  induction parts generalizing here with
  | nil => exact .inl rfl
  | cons component rest ih =>
    rw [follow, follow]
    by_cases hhere : here = place
    · obtain ⟨bytes, hbytes⟩ := hfile
      rw [hhere, at?_without_self ⟨bytes, hbytes⟩, hbytes]
      exact .inr ⟨rfl, rfl⟩
    · rw [at?_without_of_ne hhere]
      split
      · split
        · exact .inl rfl
        · exact ih
      · exact .inl rfl
      · exact .inl rfl

theorem locate_without (hfile : tree.HasFile place) (p : Path) :
    (tree.without place).locate p = tree.locate p ∨
      (tree.locate p = .error .notDirectory ∧ (tree.without place).locate p = .error .notFound) := by
  rw [locate, locate]
  by_cases hnull : p.hasNull
  · exact .inl (by rw [if_pos hnull, if_pos hnull])
  · rw [if_neg hnull, if_neg hnull]
    by_cases hlong : isTooLong p
    · exact .inl (by rw [if_pos hlong, if_pos hlong])
    · rw [if_neg hlong, if_neg hlong]
      exact follow_without hfile

/-- Where a file is removed, the same paths are those of directories. -/
theorem isDirectory_without (hfile : tree.HasFile place) (p : Path) :
    (tree.without place).isDirectory p = tree.isDirectory p := by
  have hat : ∀ q, ((tree.without place).at? q == some .directory) =
      (tree.at? q == some .directory) := fun q => by
    rw [Bool.eq_iff_iff, beq_iff_eq, beq_iff_eq]
    exact directory_without hfile
  rw [isDirectory, look, isDirectory, look]
  rcases locate_without hfile p with hsame | ⟨hblocked, hmissing⟩
  · rw [hsame]
    cases tree.locate p with
    | error fault => cases fault <;> rfl
    | ok q => exact congrArg Except.ok (hat q)
  · rw [hblocked, hmissing]

theorem stands_of_isDirectory (h : tree.isDirectory p = .ok true) : tree.Stands p := by
  obtain ⟨looked, hlook, hlooked⟩ := map_eq_ok.mp h
  obtain rfl : looked = some .directory := by simpa using hlooked
  exact stands_iff.mpr (look_eq_some hlook)

/-! ## Listing directories -/

theorem stands_under (htree : tree.WellFormed) (hstands : tree.Stands p) {rest : List String}
    (hup : ".." ∉ rest)
    (hat : tree.at? { p.resolved with parts := p.resolved.parts ++ rest } = some .directory) :
    tree.Stands { p with parts := p.parts ++ rest } := by
  obtain ⟨hreaches, -⟩ := stands_iff.mp hstands
  rw [stands_iff, Reaches, Path.way_append, Path.resolved_append, Path.foldl_step_of_notMem _ hup]
  refine ⟨?_, hat⟩
  intro q hq
  rcases List.mem_append.mp hq with hway | hafter
  · exact hreaches q hway
  · obtain ⟨front, back, rfl, -, rfl⟩ := Path.mem_wayFrom hup hafter
    exact htree.directory_of_prefix hup hat

theorem not_isAnchor_append {here : Path} {rest : List String} (hup : ".." ∉ rest)
    (hrest : rest ≠ []) : ¬ Path.isAnchor { here with parts := here.parts ++ rest } := by
  obtain ⟨component, hcomponent⟩ := List.exists_mem_of_ne_nil rest hrest
  rw [Path.isAnchor, List.all_eq_true]
  intro hall
  have hcomponentUp := hall component (List.mem_append_right _ hcomponent)
  exact hup (beq_iff_eq.mp hcomponentUp ▸ hcomponent)

/-- The directories in a directory are there. -/
theorem mem_directoriesWithin (htree : tree.WellFormed) (hstands : tree.Stands p)
    {places : List Path} (h : tree.directoriesWithin p = .ok places) :
    ∀ q ∈ places, tree.Stands q ∧ p.LeadsOn q := by
  rw [directoriesWithin] at h
  split at h
  · exact absurd h (by simp)
  · rename_i here hlocate
    obtain ⟨-, hreaches, rfl⟩ := locate_eq_ok.mp hlocate
    dsimp only at h
    split at h
    · exact absurd h (by simp)
    · obtain rfl := Except.ok.inj h
      intro q hq
      rcases List.mem_cons.mp hq with rfl | hq
      · exact ⟨hstands, .refl⟩
      · obtain ⟨⟨listed, node⟩, hmem, hq⟩ := List.mem_filterMap.mp hq
        split at hq
        · rename_i hlisted
          simp only [Bool.and_eq_true, beq_iff_eq, bne_iff_ne] at hlisted
          obtain ⟨⟨rfl, hne⟩, hwithin⟩ := hlisted
          obtain ⟨rest, hup, rfl⟩ := Path.isWithin_iff.mp hwithin
          obtain rfl := Option.some.inj hq
          have hrest : rest ≠ [] := fun he => hne (by simp [he])
          have hat := htree.at?_of_mem hmem (not_isAnchor_append hup hrest)
          rw [Path.relativeTo, List.drop_left]
          exact ⟨stands_under htree hstands hup hat, rfl, rest, rfl,
            htree.noSlash_of_directory hup hat⟩
        · exact absurd hq (by simp)

/-- Where a file is removed, the same directories are listed. -/
theorem directoriesWithin_without (htree : tree.WellFormed) (hfile : tree.HasFile place)
    (hreaches : tree.Reaches p) :
    (tree.without place).directoriesWithin p = tree.directoriesWithin p := by
  have hlist : ∀ f : Path × Node → Option Path,
      (∀ entry ∈ tree, entry.2 ≠ .directory → f entry = none) →
      (tree.without place).filterMap f = tree.filterMap f := by
    intro f hf
    rw [without, List.filterMap_filter]
    refine List.filterMap_congr fun entry hentry => ?_
    split
    · rfl
    · rename_i hplace
      have hplace : entry.1 = place := by simpa using hplace
      exact (hf entry hentry (htree.ne_directory hfile hentry hplace)).symm
  rw [directoriesWithin, directoriesWithin,
    locate_congr ((reaches_without hfile).mpr hreaches) hreaches]
  split
  · rfl
  · rw [hlist]
    intro entry _ hnode
    rw [if_neg]
    simp [hnode]

/-- A listed place that stands in a directory is the place of its path in the directory. -/
theorem resolved_child_of_listed (htree : tree.WellFormed) {entry : Path × Node}
    (hmem : entry ∈ tree) (hanchor : ¬ entry.1.isAnchor) (hparent : entry.1.parent = p.resolved) :
    (p.child entry.1.name).resolved = entry.1 := by
  have hparts : entry.1.parts ≠ [] := fun he => hanchor (by simp [Path.isAnchor, he])
  rw [Path.resolved_child, Path.step_of_ne _ (htree.notUp entry hmem hanchor), ← hparent,
    Path.child_parent hparts]

/-- What stands in a directory is there, under its name. -/
theorem mem_children (htree : tree.WellFormed) (hstands : tree.Stands p)
    {entries : List (Path × Node)} (h : tree.children p = .ok entries) :
    ∀ entry ∈ entries, p.LeadsOn entry.1 ∧ tree.Reaches entry.1 ∧
      tree.at? entry.1.resolved = some entry.2 := by
  rw [children] at h
  split at h
  · exact absurd h (by simp)
  · rename_i here hlocate
    obtain ⟨-, -, rfl⟩ := locate_eq_ok.mp hlocate
    obtain rfl := Except.ok.inj h
    intro entry hentry
    obtain ⟨listed, hmem, hentry⟩ := List.mem_filterMap.mp hentry
    split at hentry
    · rename_i hlisted
      simp only [Bool.and_eq_true, Bool.not_eq_true', beq_iff_eq] at hlisted
      obtain ⟨hanchor, hparent⟩ := hlisted
      have hanchor : ¬ listed.1.isAnchor := by simp [hanchor]
      obtain rfl := Option.some.inj hentry
      refine ⟨Path.leadsOn_child (htree.noSlash listed hmem hanchor),
        reaches_child.mpr hstands, ?_⟩
      rw [resolved_child_of_listed htree hmem hanchor hparent]
      exact htree.at?_of_mem hmem hanchor
    · exact absurd hentry (by simp)

/-- Where a file is removed, it is no longer listed. -/
theorem children_without (htree : tree.WellFormed) (hfile : tree.HasFile place)
    (hreaches : tree.Reaches p) :
    (tree.without place).children p =
      (tree.children p).map (List.filter fun entry => entry.1.resolved != place) := by
  rw [children, children, locate_congr ((reaches_without hfile).mpr hreaches) hreaches]
  split
  · rfl
  · rename_i here hlocate
    obtain ⟨-, -, rfl⟩ := locate_eq_ok.mp hlocate
    rw [Except.map, without, List.filterMap_filter, List.filter_filterMap]
    refine congrArg Except.ok (List.filterMap_congr fun entry hentry => ?_)
    by_cases hlisted : (!entry.1.isAnchor && entry.1.parent == p.resolved) = true
    · have hcond := hlisted
      simp only [Bool.and_eq_true, Bool.not_eq_true', beq_iff_eq] at hcond
      have hplace := resolved_child_of_listed htree hentry (by simp [hcond.1]) hcond.2
      rw [if_pos hlisted, Option.filter_some, hplace]
    · rw [if_neg hlisted, Option.filter_none, ite_self]

end FileTree

/-! ## Searching -/

namespace Pattern

open FileTree

variable {tree : FileTree} {place : Path}

/-- A component that is a name holds no slash. -/
def Plain : PatternPart → Prop
  | .name name => '/' ∉ name.toList
  | _ => True

/-- A search for components can start at a path: something is there, and a directory if there are
components. -/
structure Starts (tree : FileTree) (parts : List PatternPart) (p : Path) : Prop where
  found : tree.Found p
  stands : parts ≠ [] → tree.Stands p

section Starts

variable {parts rest : List PatternPart} {here p : Path}

theorem Starts.of_stands (h : tree.Stands p) : Starts tree parts p := ⟨h.found, fun _ => h⟩

theorem Starts.of_at {node : Node} (hreaches : tree.Reaches p) (hat : tree.at? p.resolved = some node)
    (hnode : (parts.isEmpty || node == .directory) = true) : Starts tree parts p := by
  refine ⟨⟨hreaches, by simp [hat]⟩, fun hparts => stands_iff.mpr ⟨hreaches, ?_⟩⟩
  have hdirectory : node = .directory := by simpa [hparts] using hnode
  rw [hat, hdirectory]

/-- Where a file stands a search can start for no components only. -/
theorem Starts.eq_nil (h : Starts tree parts p) (hfile : tree.HasFile p.resolved) : parts = [] := by
  by_contra hparts
  exact (h.stands hparts).ne_of_hasFile hfile rfl

/-- The search goes on from what a component matches in a directory. -/
theorem starts_of_matching (htree : tree.WellFormed) (hstands : tree.Stands here)
    {entries : List (Path × Node)} (hentries : tree.children here = .ok entries)
    {glyphs : List Glyph} (hp : p ∈ (entries.filter fun entry =>
      (rest.isEmpty || entry.2 == .directory) && admits glyphs entry.1.name.toList).map Prod.fst) :
    here.LeadsOn p ∧ Starts tree rest p := by
  obtain ⟨entry, hentry, rfl⟩ := List.mem_map.mp hp
  obtain ⟨hmem, hmatch⟩ := List.mem_filter.mp hentry
  obtain ⟨hleads, hreaches, hat⟩ := mem_children htree hstands hentries entry hmem
  exact ⟨hleads, .of_at hreaches hat (Bool.and_eq_true_iff.mp hmatch).1⟩

end Starts

/-- **What is found is there**, below the place where the search starts. -/
theorem mem_select (htree : tree.WellFormed) {parts : List PatternPart} {here : Path}
    {found : List Path} (hplain : ∀ part ∈ parts, Plain part) (hstarts : Starts tree parts here)
    (h : select tree parts here = .ok found) :
    ∀ q ∈ found, tree.Found q ∧ here.LeadsOn q := by
  induction parts generalizing here found with
  | nil =>
    obtain rfl := Except.ok.inj h
    intro q hq
    rw [List.mem_singleton.mp hq]
    exact ⟨hstarts.found, .refl⟩
  | cons part rest ih =>
    rw [List.forall_mem_cons] at hplain
    have hstands := hstarts.stands (by simp)
    -- the paths that the rest finds from each of some places below
    have hmapM : ∀ {places : List Path} {found : List (List Path)},
        (∀ q ∈ places, here.LeadsOn q ∧ Starts tree rest q) →
        places.mapM (select tree rest) = .ok found →
        ∀ q ∈ found.flatten, tree.Found q ∧ here.LeadsOn q := by
      intro places found hplaces hfound q hq
      obtain ⟨some, hsome, hq⟩ := List.mem_flatten.mp hq
      obtain ⟨start, hstart, hselect⟩ := exists_of_mem_mapM hfound some hsome
      obtain ⟨hleads, hthere⟩ := hplaces start hstart
      obtain ⟨hfound, hon⟩ := ih hplain.2 hthere hselect q hq
      exact ⟨hfound, hleads.trans hon⟩
    cases part with
    | stop =>
      obtain rfl := Except.ok.inj h
      intro q hq
      rw [List.mem_singleton.mp hq]
      exact ⟨hstarts.found, .refl⟩
    | directories =>
      rw [select, bind_eq_ok] at h
      obtain ⟨places, hplaces, h⟩ := h
      rw [bind_eq_ok] at h
      obtain ⟨lists, hlists, h⟩ := h
      obtain rfl := pure_eq_ok.mp h
      refine hmapM (fun q hq => ?_) hlists
      obtain ⟨hq, hleads⟩ := mem_directoriesWithin htree hstands hplaces q hq
      exact ⟨hleads, .of_stands hq⟩
    | name name =>
      rw [select, bind_eq_ok] at h
      obtain ⟨looked, hlooked, h⟩ := h
      cases looked with
      | none =>
        obtain rfl := pure_eq_ok.mp h
        exact fun q hq => absurd hq (by simp)
      | some node =>
        obtain ⟨hreaches, hat⟩ := look_eq_some hlooked
        dsimp only at h
        split at h
        · rename_i hnode
          intro q hq
          obtain ⟨hfound, hleads⟩ := ih hplain.2 (.of_at hreaches hat hnode) h q hq
          exact ⟨hfound, (Path.leadsOn_child hplain.1).trans hleads⟩
        · obtain rfl := pure_eq_ok.mp h
          exact fun q hq => absurd hq (by simp)
    | glyphs glyphs =>
      rw [select, bind_eq_ok] at h
      obtain ⟨entries, hentries, h⟩ := h
      dsimp only at h
      rw [bind_eq_ok] at h
      obtain ⟨lists, hlists, h⟩ := h
      obtain rfl := pure_eq_ok.mp h
      exact hmapM (fun q hq => starts_of_matching htree hstands hentries hq) hlists

/-- **Without a file, a search finds the same paths but those that lead to the file.** -/
theorem select_without (htree : tree.WellFormed) (hfile : tree.HasFile place)
    {parts : List PatternPart} {here : Path} (hne : here.resolved ≠ place)
    (hstarts : Starts tree parts here) :
    select (tree.without place) parts here =
      (select tree parts here).map (List.filter fun q => q.resolved != place) := by
  induction parts generalizing here with
  | nil => simp [select, Except.map, hne]
  | cons part rest ih =>
    have hstands := hstarts.stands (by simp)
    have hreaches := (stands_iff.mp hstands).1
    cases part with
    | stop => simp [select, Except.map, hne]
    | directories =>
      rw [select, select, directoriesWithin_without htree hfile hreaches]
      cases hplaces : tree.directoriesWithin here with
      | error e => rfl
      | ok places =>
        have hplace : ∀ q ∈ places, tree.Stands q := fun q hq =>
          (mem_directoriesWithin htree hstands hplaces q hq).1
        have hapart : ∀ q ∈ places, q.resolved ≠ place :=
          fun q hq => (hplace q hq).ne_of_hasFile hfile
        have hall : places.filter (fun q => q.resolved != place) = places :=
          List.filter_eq_self.mpr fun q hq => by simpa using hapart q hq
        rw [ok_bind, ok_bind, bind_pure_eq_map, bind_pure_eq_map]
        nth_rewrite 1 [← hall]
        refine flatten_mapM_filter (fun q hq _ => ?_) (fun q hq hdead => ?_)
        · exact ih (hapart q hq) (.of_stands (hplace q hq))
        · exact absurd (by simpa using hapart q hq) hdead
    | name name =>
      have hchild : tree.Reaches (here.child name) := reaches_child.mpr hstands
      rw [select, select, look_without hfile hchild]
      cases hlook : tree.look (here.child name) with
      | error e => rfl
      | ok looked =>
        rw [Except.map, ok_bind, ok_bind]
        cases looked with
        | none => simp [pure, Except.pure, Except.map]
        | some node =>
          obtain ⟨-, hat⟩ := look_eq_some hlook
          by_cases hplace : (here.child name).resolved = place
          · -- the file is found only where nothing is to be matched after it
            rw [if_pos hplace]
            dsimp only
            split
            · rename_i hnode
              subst hplace
              obtain rfl := (Starts.of_at hchild hat hnode).eq_nil hfile
              simp [select, pure, Except.pure, Except.map]
            · rfl
          · rw [if_neg hplace]
            dsimp only
            split
            · rename_i hnode
              exact ih hplace (.of_at hchild hat hnode)
            · rfl
    | glyphs glyphs =>
      rw [select, select, children_without htree hfile hreaches]
      cases hentries : tree.children here with
      | error e => rfl
      | ok entries =>
        rw [Except.map, ok_bind, ok_bind, bind_pure_eq_map, bind_pure_eq_map]
        rw [List.filter_comm, ← Function.comp_def (fun q : Path => q.resolved != place) Prod.fst,
          ← List.filter_map]
        refine flatten_mapM_filter (fun q hq hlive => ?_) (fun q hq hdead => ?_)
        · exact ih (by simpa using hlive) (starts_of_matching htree hstands hentries hq).2
        · -- the file matches only where nothing is to be matched after it
          obtain rfl : q.resolved = place := by simpa using hdead
          obtain rfl := (starts_of_matching htree hstands hentries hq).2.eq_nil hfile
          exact ⟨[q], rfl, by simp⟩

/-- What is found in a directory by its name is a child of the directory. -/
theorem mem_select_glyphs {glyphs : List Glyph} {here : Path} {found : List Path}
    (h : select tree [.glyphs glyphs] here = .ok found) :
    ∀ q ∈ found, ∃ name, q = here.child name ∧ admits glyphs name.toList = true := by
  rw [select, bind_eq_ok] at h
  obtain ⟨entries, hentries, h⟩ := h
  dsimp only at h
  rw [bind_eq_ok] at h
  obtain ⟨lists, hlists, h⟩ := h
  obtain rfl := pure_eq_ok.mp h
  intro q hq
  obtain ⟨list, hlist, hq⟩ := List.mem_flatten.mp hq
  obtain ⟨start, hstart, hselect⟩ := exists_of_mem_mapM hlists list hlist
  obtain rfl := Except.ok.inj hselect
  obtain rfl := List.mem_singleton.mp hq
  obtain ⟨entry, hentry, rfl⟩ := List.mem_map.mp hstart
  obtain ⟨hmem, hmatch⟩ := List.mem_filter.mp hentry
  rw [children] at hentries
  split at hentries
  · exact absurd hentries (by simp)
  · obtain rfl := Except.ok.inj hentries
    obtain ⟨listed, -, hlisted⟩ := List.mem_filterMap.mp hmem
    split at hlisted
    · obtain rfl := Option.some.inj hlisted
      rw [Bool.and_eq_true, Path.child_name] at hmatch
      exact ⟨listed.1.name, rfl, hmatch.2⟩
    · exact absurd hlisted (by simp)

theorem partOf_plain {component : String} {part : PatternPart} (hcomponent : '/' ∉ component.toList)
    (h : partOf component = .ok part) : Plain part := by
  rw [partOf] at h
  split at h
  · obtain rfl := Except.ok.inj h
    trivial
  · split at h
    · exact absurd h (by simp)
    · split at h
      · obtain rfl := Except.ok.inj h
        trivial
      · obtain rfl := Except.ok.inj h
        exact hcomponent

theorem ofText_plain {pattern : String} {parts : List PatternPart}
    (h : ofText pattern = .ok parts) : ∀ part ∈ parts, Plain part := by
  rw [ofText] at h
  dsimp only at h
  split at h
  · exact absurd h (by simp [throw, throwThe, MonadExceptOf.throw, bind, Except.bind])
  · rw [bind_eq_ok] at h
    obtain ⟨named, hnamed, h⟩ := h
    obtain rfl := pure_eq_ok.mp h
    intro part hpart
    rcases List.mem_append.mp hpart with hfront | hslash
    · rcases List.mem_cons.mp hfront with rfl | hnamedPart
      · trivial
      · obtain ⟨component, hcomponent, hpart⟩ := exists_of_mem_mapM hnamed part hnamedPart
        exact partOf_plain (Path.slash_notMem_ofText hcomponent) hpart
    · split at hslash
      · obtain rfl := List.mem_singleton.mp hslash
        trivial
      · exact absurd hslash (by simp)

/-- What a pattern finds in a directory is there, below the directory. -/
theorem mem_find (htree : tree.WellFormed) {directory : Path} {pattern : String}
    {found : List Path} (h : find tree directory pattern = .ok found) :
    ∀ q ∈ found, tree.Found q ∧ directory.LeadsOn q ∧ tree.Stands directory := by
  rw [find] at h
  split at h
  · exact absurd h (by simp)
  · rename_i parts hparts
    have h := mapError_eq_ok.mp h
    rw [selectWithin, bind_eq_ok] at h
    obtain ⟨there, hthere, h⟩ := h
    cases there with
    | false =>
      obtain rfl := pure_eq_ok.mp h
      exact fun q hq => absurd hq (by simp)
    | true =>
      have hstands := stands_of_isDirectory hthere
      intro q hq
      obtain ⟨hfound, hleads⟩ :=
        mem_select htree (ofText_plain hparts) (.of_stands hstands) h q hq
      exact ⟨hfound, hleads, hstands⟩

/-- **Without a file, a pattern finds the same paths but those that lead to the file.** -/
theorem find_without (htree : tree.WellFormed) (hfile : tree.HasFile place) (directory : Path)
    (pattern : String) : find (tree.without place) directory pattern =
      (find tree directory pattern).map (List.filter fun q => q.resolved != place) := by
  rw [find, find]
  split
  · rfl
  · rw [selectWithin, selectWithin, isDirectory_without hfile]
    cases hthere : tree.isDirectory directory with
    | error e => rfl
    | ok there =>
      cases there with
      | false => rfl
      | true =>
        have hstands := stands_of_isDirectory hthere
        rw [ok_bind, ok_bind, if_pos rfl, if_pos rfl,
          select_without htree hfile (hstands.ne_of_hasFile hfile) (.of_stands hstands)]
        cases select tree _ directory <;> rfl

end Pattern
end PageObjects
