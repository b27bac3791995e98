import PageObjects.Batch.Run
import PageObjects.Proofs.Files.Glyph
import PageObjects.Proofs.Files.Search
import PageObjects.Proofs.Text.Sorted

/-!
# The documents of a run

The documents are listed once each, in the order of their paths, and everything listed is there. The
order is total, so that the same documents are always listed the same way: a run over the tree
without one of them lists the others as they were. This is the search of the Runner (specification,
2).

* `Config.discover_ordered`, `Config.discover_found`: what is listed.
* `Config.discover_ending`: what the names of documents end in by default.
* `Config.discover_without`: the documents of the tree without a file.
-/

namespace PageObjects

namespace Path

/-! ## The order of paths -/

theorem componentsLe_total : ∀ as bs, componentsLe as bs || componentsLe bs as
  | [], bs => by simp [componentsLe]
  | a :: as, [] => by simp [componentsLe]
  | a :: as, b :: bs => by
    rw [componentsLe, componentsLe]
    by_cases h : a = b
    · subst h
      simpa using componentsLe_total as bs
    · rw [beq_false_of_ne h, beq_false_of_ne (Ne.symm h)]
      simpa using String.le_total a b

theorem componentsLe_trans : ∀ {as bs cs}, componentsLe as bs → componentsLe bs cs →
    componentsLe as cs
  | [], _, _, _, _ => by rw [componentsLe]
  | a :: as, [], _, h, _ => absurd h (by simp [componentsLe])
  | a :: as, b :: bs, [], _, h => absurd h (by simp [componentsLe])
  | a :: as, b :: bs, c :: cs, h, h' => by
    rw [componentsLe] at h h' ⊢
    by_cases hab : a = b
    · subst hab
      by_cases hac : a = c
      · subst hac
        simp only [beq_self_eq_true, if_true] at h h' ⊢
        exact componentsLe_trans h h'
      · simpa [hac] using h'
    · rw [beq_false_of_ne hab] at h
      have hle : a ≤ b := by simpa using h
      by_cases hbc : b = c
      · subst hbc
        simpa [hab] using hle
      · rw [beq_false_of_ne hbc] at h'
        have hle' : b ≤ c := by simpa using h'
        have hac : a ≠ c := fun hac => hab (String.le_antisymm hle (hac ▸ hle'))
        simpa [hac] using String.le_trans hle hle'

theorem componentsLe_antisymm : ∀ {as bs}, componentsLe as bs → componentsLe bs as → as = bs
  | [], [], _, _ => rfl
  | [], b :: bs, _, h => absurd h (by simp [componentsLe])
  | a :: as, [], h, _ => absurd h (by simp [componentsLe])
  | a :: as, b :: bs, h, h' => by
    rw [componentsLe] at h h'
    by_cases hab : a = b
    · subst hab
      simp only [beq_self_eq_true, if_true] at h h'
      rw [componentsLe_antisymm h h']
    · rw [beq_false_of_ne hab] at h
      rw [beq_false_of_ne (Ne.symm hab)] at h'
      exact absurd (String.le_antisymm (by simpa using h) (by simpa using h')) hab

theorem le_total (p q : Path) : p.le q || q.le p := componentsLe_total _ _

theorem le_trans {p q r : Path} (h : p.le q) (h' : q.le r) : p.le r := componentsLe_trans h h'

theorem le_antisymm {p q : Path} (h : p.le q) (h' : q.le p) : p = q := by
  have hcomponents := componentsLe_antisymm h h'
  rw [List.cons.injEq] at hcomponents
  cases p
  cases q
  simpa using hcomponents

/-! ## Listing each path once, in order -/

/-- Each path once, in order. -/
def arrange (paths : List Path) : List Path := paths.eraseDups.mergeSort le

theorem mem_arrange {p : Path} {paths : List Path} : p ∈ arrange paths ↔ p ∈ paths := by
  rw [arrange, List.mem_mergeSort, List.mem_eraseDups]

theorem arrange_nodup (paths : List Path) : (arrange paths).Nodup :=
  (List.mergeSort_perm _ _).nodup_iff.mpr (nodup_eraseDups paths)

theorem arrange_ordered (paths : List Path) : (arrange paths).Pairwise (·.le ·) :=
  @List.pairwise_mergeSort Path le (fun _ _ _ => le_trans) le_total paths.eraseDups

/-- Lists in order without repetition are equal if they have the same members. -/
theorem eq_of_ordered {paths others : List Path} (hnodup : paths.Nodup) (hnodup' : others.Nodup)
    (hordered : paths.Pairwise (·.le ·)) (hordered' : others.Pairwise (·.le ·))
    (hmem : ∀ p, p ∈ paths ↔ p ∈ others) : paths = others :=
  ((List.perm_ext_iff_of_nodup hnodup hnodup').mpr hmem).eq_of_pairwise
    (fun _ _ _ _ h h' => le_antisymm h h') hordered hordered'

theorem arrange_filter (paths : List Path) (keep : Path → Bool) :
    arrange (paths.filter keep) = (arrange paths).filter keep := by
  refine eq_of_ordered (arrange_nodup _) ((arrange_nodup paths).filter keep) (arrange_ordered _)
    ((arrange_ordered paths).filter keep) fun p => ?_
  rw [mem_arrange, List.mem_filter, List.mem_filter, mem_arrange]

end Path

namespace Config

variable {c : Config} {tree : FileTree} {paths : List Path} {place : Path}

theorem discover_eq : c.discover tree =
    ((c.filePatterns.mapM (Pattern.find tree c.sourceDir)).map List.flatten).map Path.arrange := by
  rw [discover]
  cases c.filePatterns.mapM (Pattern.find tree c.sourceDir) <;> rfl

/-- The documents are listed once each, in the order of their paths. -/
theorem discover_ordered (h : c.discover tree = .ok paths) :
    paths.Nodup ∧ paths.Pairwise (·.le ·) := by
  rw [discover_eq] at h
  obtain ⟨found, -, rfl⟩ := map_eq_ok.mp h
  exact ⟨Path.arrange_nodup found, Path.arrange_ordered found⟩

/-- Every document is there, below the source directory. -/
theorem discover_found (htree : tree.WellFormed) (h : c.discover tree = .ok paths) :
    ∀ p ∈ paths, tree.Found p ∧ c.sourceDir.LeadsOn p ∧ tree.Stands c.sourceDir := by
  rw [discover_eq] at h
  obtain ⟨found, hfound, rfl⟩ := map_eq_ok.mp h
  obtain ⟨lists, hlists, rfl⟩ := map_eq_ok.mp hfound
  intro p hp
  obtain ⟨list, hlist, hp⟩ := List.mem_flatten.mp (Path.mem_arrange.mp hp)
  obtain ⟨pattern, -, hfind⟩ := exists_of_mem_mapM hlists list hlist
  exact Pattern.mem_find htree hfind p hp

/-- The default pattern lists documents by the ending of their names. -/
theorem discover_ending (h : c.discover tree = .ok paths)
    (hpatterns : c.filePatterns = ["*.utam.json"]) :
    ∀ p ∈ paths, ".utam.json".toList <:+ p.resolved.name.toList := by
  have hparts : Pattern.ofText "*.utam.json" =
      .ok [.directories, .glyphs (.anyText :: ".utam.json".toList.map .char)] := by
    decide +kernel
  rw [discover_eq, hpatterns] at h
  obtain ⟨found, hfound, rfl⟩ := map_eq_ok.mp h
  obtain ⟨lists, hlists, rfl⟩ := map_eq_ok.mp hfound
  intro p hp
  obtain ⟨list, hlist, hp⟩ := List.mem_flatten.mp (Path.mem_arrange.mp hp)
  obtain ⟨pattern, hpattern, hfind⟩ := exists_of_mem_mapM hlists list hlist
  obtain rfl := List.mem_singleton.mp hpattern
  simp only [Pattern.find, hparts] at hfind
  have hselect := mapError_eq_ok.mp hfind
  rw [Pattern.selectWithin, bind_eq_ok] at hselect
  obtain ⟨there, -, hselect⟩ := hselect
  cases there with
  | false =>
    obtain rfl := pure_eq_ok.mp hselect
    exact absurd hp (by simp)
  | true =>
    rw [if_pos rfl, Pattern.select, bind_eq_ok] at hselect
    obtain ⟨places, -, hselect⟩ := hselect
    obtain ⟨lists, hlists, hselect⟩ := bind_eq_ok.mp hselect
    obtain rfl := pure_eq_ok.mp hselect
    obtain ⟨list, hlist, hp⟩ := List.mem_flatten.mp hp
    obtain ⟨place, -, hlast⟩ := exists_of_mem_mapM hlists list hlist
    obtain ⟨name, rfl, hadmits⟩ := Pattern.mem_select_glyphs hlast p hp
    have hending := Pattern.admits_ending.mp hadmits
    have hname : name ≠ ".." := by
      rintro rfl
      exact absurd hending (by decide)
    rwa [Path.resolved_child, Path.step_of_ne _ hname, Path.child_name]

/-- **Without a file, a run lists the same documents but those that lead to the file.** -/
theorem discover_without (htree : tree.WellFormed) (hfile : tree.HasFile place) :
    c.discover (tree.without place) =
      (c.discover tree).map (List.filter fun p => p.resolved != place) := by
  have hfind : ((c.filePatterns.filter fun _ => true).mapM
      (Pattern.find (tree.without place) c.sourceDir)).map List.flatten =
        ((c.filePatterns.mapM (Pattern.find tree c.sourceDir)).map List.flatten).map
          (List.filter fun p => p.resolved != place) :=
    flatten_mapM_filter
      (fun pattern _ _ => Pattern.find_without htree hfile c.sourceDir pattern)
      (fun _ _ hdead => absurd rfl hdead)
  rw [List.filter_eq_self.mpr fun _ _ => rfl] at hfind
  rw [discover_eq, discover_eq, hfind]
  cases (c.filePatterns.mapM (Pattern.find tree c.sourceDir)).map List.flatten with
  | error e => rfl
  | ok found => exact congrArg Except.ok (Path.arrange_filter found _)

end Config
end PageObjects
