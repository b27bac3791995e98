import Mathlib.Data.List.Nodup
import PageObjects.Catalog.Action
import PageObjects.Proofs.Association
import PageObjects.Proofs.Except

/-!
# Capabilities of elements

What an element can do is settled by a set of interfaces: the basic one, those that it declares, and what those
include. The set is listed by a loop that goes up from each declared interface and stops early, at the first one
that it has seen. No two interfaces declare an action of one name, so it does not matter in which order they are
listed. The sets are the capability sets of the action catalog (specification, 2 and 4.2, step 3).

* `Action.Capability`: the set, as a closure.
* `Action.Enlists`, `Action.Expands`: the rounds of the loop, for one interface and for all.
* `Action.Grown`: what every round keeps. The list is closed up to the interface that comes next.
* `Action.find?_eq_some_iff`: the action that is found.
* **`Action.capabilities_settle`**: the loop ends with the closure, each interface once, and the actions that are
  found and listed are those of the closure.
-/

namespace PageObjects.Action

/-! ## The closure and the loop -/

/-- The interfaces that declared ones amount to: the basic one, each that is declared, and what one of them
includes. -/
inductive Capability (declared : List String) : String → Prop
  | basic : Capability declared basicInterface
  | declared {i : String} (h : i ∈ declared) : Capability declared i
  | included {i parent : String} (hi : Capability declared i) (h : parent? i = some parent) :
      Capability declared parent

/-- The way up from an interface. It ends above the last, or at an interface that is there already; any other is
added at the end. -/
inductive Enlists : List String → Option String → List String → Prop
  | top {present : List String} : Enlists present none present
  | known {present : List String} {i : String} (h : i ∈ present) : Enlists present (some i) present
  | added {present all : List String} {i : String} (h : i ∉ present)
      (hnext : Enlists (present ++ [i]) (parent? i) all) : Enlists present (some i) all

/-- The ways up from declared interfaces, one after the other. -/
inductive Expands : List String → List String → List String → Prop
  | done {present : List String} : Expands present [] present
  | step {present next all declared : List String} {i : String} (h : Enlists present (some i) next)
      (hrest : Expands next declared all) : Expands present (i :: declared) all

variable {declared declared' present all all' : List String} {pending : Option String} {i : String}
  {name element : String} {a b : Action}

theorem Capability.mono (h : ∀ i ∈ declared, i ∈ declared') (hi : Capability declared i) :
    Capability declared' i := by
  induction hi with
  | basic => exact .basic
  | declared hmem => exact .declared (h _ hmem)
  | included _ hparent ih => exact .included ih hparent

theorem Enlists.unique (h : Enlists present pending all) (h' : Enlists present pending all') : all = all' := by
  induction h with
  | top => cases h'; rfl
  | known hmem =>
    cases h' with
    | known _ => rfl
    | added hnot _ => exact absurd hmem hnot
  | added hnot _ ih =>
    cases h' with
    | known hmem => exact absurd hmem hnot
    | added _ hnext' => exact ih hnext'

theorem Expands.unique (h : Expands present declared all) (h' : Expands present declared all') :
    all = all' := by
  induction h with
  | done => cases h'; rfl
  | step hfirst _ ih =>
    cases h' with
    | step hfirst' hrest' => exact ih (hfirst.unique hfirst' ▸ hrest')

/-- No included interface includes another, or itself. -/
theorem parent?_of_parent? {parent : String} (h : parent? i = some parent) :
    parent ≠ i ∧ parent? parent = none := by
  unfold parent? at h
  split at h
  · rename_i hi
    obtain rfl := Option.some.inj h
    refine ⟨?_, rfl⟩
    rintro rfl
    exact absurd hi (by decide)
  · exact absurd h (by simp)

/-- The way up from an interface ends, with what is enlisted at once. -/
theorem enlists_enlist (present : List String) (i : String) :
    Enlists present (some i) (enlist present i) := by
  unfold enlist lineage
  by_cases hi : i ∈ present
  · rw [List.takeWhile_cons_of_neg (by simpa using hi), List.append_nil]
    exact .known hi
  · rw [List.takeWhile_cons_of_pos (by simpa using hi)]
    refine .added hi ?_
    cases hparent : parent? i with
    | none => exact .top
    | some parent =>
      obtain ⟨hne, htop⟩ := parent?_of_parent? hparent
      rw [Option.toList_some]
      by_cases hknown : parent ∈ present
      · rw [List.takeWhile_cons_of_neg (by simpa using hknown)]
        exact .known (List.mem_append_left _ hknown)
      · rw [List.takeWhile_cons_of_pos (by simpa using hknown), List.takeWhile_nil,
          List.append_cons present i [parent]]
        refine .added (by simp [hknown, hne]) ?_
        rw [htop]
        exact .top

theorem expands_foldl (present declared : List String) :
    Expands present declared (declared.foldl enlist present) := by
  induction declared generalizing present with
  | nil => exact .done
  | cons i declared ih => exact .step (enlists_enlist present i) (ih (enlist present i))

/-! ## What the loop keeps -/

/-- The list on the way up: it begins with the basic interface, holds nothing twice and nothing beside the
closure, and what its interfaces include is there or comes next. -/
structure Grown (declared present : List String) (pending : Option String) : Prop where
  first : present.head? = some basicInterface
  once : present.Nodup
  sound : ∀ i ∈ present, Capability declared i
  next : ∀ i ∈ pending, Capability declared i
  closed : ∀ i ∈ present, ∀ parent, parent? i = some parent → parent ∈ present ∨ pending = some parent

/-- A round adds the interface that comes next. -/
theorem Grown.add (h : Grown declared present (some i)) (hi : i ∉ present) :
    Grown declared (present ++ [i]) (parent? i) where
  first := by rw [List.head?_append, h.first, Option.some_or]
  once := List.nodup_append.mpr ⟨h.once, List.nodup_singleton i, by
    intro known hknown added hadded hsame
    exact hi (List.mem_singleton.mp hadded ▸ hsame ▸ hknown)⟩
  sound := by
    rw [List.forall_mem_append, List.forall_mem_singleton]
    exact ⟨h.sound, h.next i rfl⟩
  next parent hparent := .included (h.next i rfl) hparent
  closed := by
    rw [List.forall_mem_append, List.forall_mem_singleton]
    refine ⟨fun known hknown parent hparent => Or.inl ?_, fun parent hparent => Or.inr hparent⟩
    rcases h.closed known hknown parent hparent with hthere | hnext
    · exact List.mem_append_left _ hthere
    · obtain rfl := Option.some.inj hnext
      exact List.mem_append_right _ (List.mem_singleton_self i)

/-- The way up ends with a list that is closed. -/
theorem Enlists.grown (h : Enlists present pending all) (hgrown : Grown declared present pending) :
    Grown declared all none ∧ (∀ i ∈ present, i ∈ all) ∧ ∀ i ∈ pending, i ∈ all := by
  induction h with
  | top => exact ⟨hgrown, fun _ hi => hi, by simp⟩
  | @known present i hi =>
    refine ⟨{ hgrown with next := by simp, closed := fun known hknown parent hparent => Or.inl ?_ },
      fun _ hmem => hmem, by simpa using hi⟩
    rcases hgrown.closed known hknown parent hparent with hthere | hnext
    · exact hthere
    · exact Option.some.inj hnext ▸ hi
  | @added present all i hi _ ih =>
    obtain ⟨hall, hkept, -⟩ := ih (hgrown.add hi)
    rw [List.forall_mem_append, List.forall_mem_singleton] at hkept
    exact ⟨hall, hkept.1, by simpa using hkept.2⟩

/-- All ways up end with a list that is closed and holds what is declared. -/
theorem Expands.grown (h : Expands present declared all) (hgrown : Grown declared' present none)
    (hdeclared : ∀ i ∈ declared, i ∈ declared') :
    Grown declared' all none ∧ (∀ i ∈ present, i ∈ all) ∧ ∀ i ∈ declared, i ∈ all := by
  induction h with
  | done => exact ⟨hgrown, fun _ hi => hi, by simp⟩
  | @step present next all declared i hfirst _ ih =>
    rw [List.forall_mem_cons] at hdeclared
    have hpending : Grown declared' present (some i) :=
      { hgrown with
        next := by simpa using Capability.declared hdeclared.1
        closed := fun known hknown parent hparent =>
          Or.inl ((hgrown.closed known hknown parent hparent).resolve_right (by simp)) }
    obtain ⟨hnext, hkept, hi⟩ := hfirst.grown hpending
    obtain ⟨hall, hkept', hrest⟩ := ih hnext hdeclared.2
    exact ⟨hall, fun j hj => hkept' j (hkept j hj),
      List.forall_mem_cons.mpr ⟨hkept' i (hi i rfl), hrest⟩⟩

/-- The list at the beginning of the loop. -/
theorem grown_basic (declared : List String) : Grown declared [basicInterface] none where
  first := rfl
  once := List.nodup_singleton _
  sound := by simpa using Capability.basic
  next := by simp
  closed := by
    intro i hi parent hparent
    have htop : parent? basicInterface = none := by decide
    rw [List.mem_singleton.mp hi, htop] at hparent
    exact absurd hparent (by simp)

theorem grown_expand (declared : List String) :
    Grown declared (expand declared) none ∧ ∀ i ∈ declared, i ∈ expand declared := by
  obtain ⟨hgrown, -, hdeclared⟩ :=
    (expands_foldl [basicInterface] declared).grown (grown_basic declared) fun _ hi => hi
  exact ⟨hgrown, hdeclared⟩

/-- **The list is the closure.** -/
theorem mem_expand_iff : i ∈ expand declared ↔ Capability declared i := by
  obtain ⟨hgrown, hdeclared⟩ := grown_expand declared
  refine ⟨hgrown.sound i, fun hi => ?_⟩
  induction hi with
  | basic => exact List.mem_of_head? hgrown.first
  | declared hmem => exact hdeclared _ hmem
  | included _ hparent ih => exact (hgrown.closed _ ih _ hparent).resolve_right (by simp)

/-! ## Actions -/

/-- What an interface declares is in the catalog, under the interface's name. -/
theorem mem_catalog (h : a ∈ declaredBy i) : ∃ entry ∈ catalog, entry.1 = i ∧ a ∈ entry.2 := by
  unfold declaredBy at h
  cases hlookup : catalog.lookup i with
  | none => simp [hlookup] at h
  | some actions =>
    rw [hlookup, Option.getD_some] at h
    exact ⟨(i, actions), mem_of_lookup hlookup, rfl, h⟩

theorem interface_of_mem (h : a ∈ declaredBy i) : a.interface = i := by
  have hall : ∀ entry ∈ catalog, ∀ a ∈ entry.2, a.interface = entry.1 := by decide
  obtain ⟨entry, hentry, rfl, ha⟩ := mem_catalog h
  exact hall entry hentry a ha

/-- No two actions have one name, whatever interfaces declare them. -/
theorem eq_of_name_eq {j : String} (ha : a ∈ declaredBy i) (hb : b ∈ declaredBy j) (h : a.name = b.name) :
    a = b := by
  have hnames : ((catalog.flatMap Prod.snd).map Action.name).Nodup := by decide
  have hcatalog : ∀ {a i}, a ∈ declaredBy i → a ∈ catalog.flatMap Prod.snd := by
    intro a i ha
    obtain ⟨entry, hentry, -, ha⟩ := mem_catalog ha
    exact List.mem_flatMap.mpr ⟨entry, hentry, ha⟩
  exact List.inj_on_of_nodup_map hnames (hcatalog ha) (hcatalog hb) h

/-- **The action that is found** is the one of the name among those of the closure. -/
theorem find?_eq_some_iff :
    find? name declared = some a ↔ a.name = name ∧ ∃ i, Capability declared i ∧ a ∈ declaredBy i := by
  have hfound : ∀ {a}, find? name declared = some a →
      a.name = name ∧ ∃ i, Capability declared i ∧ a ∈ declaredBy i := by
    intro a h
    obtain ⟨i, hi, hfind⟩ := List.exists_of_findSome?_eq_some h
    exact ⟨by simpa using List.find?_some hfind, i, mem_expand_iff.mp hi, List.mem_of_find?_eq_some hfind⟩
  refine ⟨hfound, ?_⟩
  rintro ⟨hname, i, hi, ha⟩
  have hsome : (find? name declared).isSome = true := by
    rw [find?, List.findSome?_isSome_iff]
    exact ⟨i, mem_expand_iff.mpr hi, List.find?_isSome.mpr ⟨a, ha, by simpa using hname⟩⟩
  obtain ⟨b, hb⟩ := Option.isSome_iff_exists.mp hsome
  obtain ⟨hname', j, -, hb'⟩ := hfound hb
  rw [hb, eq_of_name_eq hb' ha (hname'.trans hname.symm)]

theorem find_eq_ok_iff : find name declared element = .ok a ↔ find? name declared = some a := by
  unfold find
  split
  · rename_i action haction
    rw [haction, Except.ok.injEq, Option.some.injEq]
  · rename_i hnone
    simp [hnone]

/-- The same capabilities give the same actions. -/
theorem find?_congr (h : ∀ i, Capability declared i ↔ Capability declared' i) :
    find? name declared = find? name declared' := by
  refine Option.ext fun a => ?_
  rw [find?_eq_some_iff, find?_eq_some_iff]
  simp only [h]

/-! ## Lists of actions -/

/-- All actions of the closure. -/
def available (declared : List String) : List Action := (expand declared).flatMap declaredBy

theorem mem_available_iff : a ∈ available declared ↔ find? a.name declared = some a := by
  rw [find?_eq_some_iff, and_iff_right rfl, available, List.mem_flatMap]
  simp only [mem_expand_iff]

/-- No name stands twice among the actions of the closure. -/
theorem nodup_available (declared : List String) : ((available declared).map Action.name).Nodup := by
  have heach : ∀ i, (declaredBy i).Nodup := by
    have hcatalog : ∀ entry ∈ catalog, entry.2.Nodup := by decide
    intro i
    unfold declaredBy
    cases hlookup : catalog.lookup i with
    | none => exact List.nodup_nil
    | some actions => exact hcatalog _ (mem_of_lookup hlookup)
  have hactions : (available declared).Nodup := by
    refine List.nodup_flatMap.mpr ⟨fun i _ => heach i, ?_⟩
    refine (grown_expand declared).1.once.imp fun {i j} hne a hi hj => hne ?_
    exact (interface_of_mem hi).symm.trans (interface_of_mem hj)
  refine hactions.map_on fun a ha b hb hname => ?_
  obtain ⟨i, -, ha⟩ := List.mem_flatMap.mp ha
  obtain ⟨j, -, hb⟩ := List.mem_flatMap.mp hb
  exact eq_of_name_eq ha hb hname

/-- The actions of an element with one interface that it may declare, or with none. -/
theorem list_eq_ok (h : i ∈ basicInterface :: supportedInterfaces) : list i = .ok (available [i]) := by
  have hall : ∀ i ∈ basicInterface :: supportedInterfaces, list i = .ok (available [i]) := by decide
  exact hall i h

/-! ## Both -/

/-- What a list of declared interfaces amounts to. -/
structure Settles (declared : List String) : Prop where
  /-- The loop comes to an end, with one list only. -/
  ends : ∀ all, Expands [basicInterface] declared all ↔ all = expand declared
  first : (expand declared).head? = some basicInterface
  once : (expand declared).Nodup
  closure : ∀ i, i ∈ expand declared ↔ Capability declared i
  /-- An action is found if an interface of the closure declares it. -/
  found : ∀ name element, (∃ a, find name declared element = .ok a) ↔
    ∃ i, Capability declared i ∧ ∃ a ∈ declaredBy i, a.name = name
  /-- What is found does not depend on the order of the interfaces, nor on repetitions. -/
  order : ∀ declared', (∀ i, i ∈ declared ↔ i ∈ declared') → ∀ name element a,
    find name declared element = .ok a ↔ find name declared' element = .ok a

/-- The list of an interface's actions: each that is found on an element with this interface alone, once. -/
structure Lists (i : String) (actions : List Action) : Prop where
  listed : list i = .ok actions
  once : (actions.map Action.name).Nodup
  found : ∀ a element, a ∈ actions ↔ ∃ name, find name [i] element = .ok a

theorem settles (declared : List String) : Settles declared where
  ends all := by
    have hexpands : Expands [basicInterface] declared (expand declared) := expands_foldl _ _
    exact ⟨fun h => h.unique hexpands, fun h => h ▸ hexpands⟩
  first := (grown_expand declared).1.first
  once := (grown_expand declared).1.once
  closure _ := mem_expand_iff
  found name element := by
    simp only [find_eq_ok_iff, find?_eq_some_iff]
    constructor
    · rintro ⟨a, hname, i, hi, ha⟩
      exact ⟨i, hi, a, ha, hname⟩
    · rintro ⟨i, hi, a, ha, hname⟩
      exact ⟨a, hname, i, hi, ha⟩
  order declared' h name element a := by
    rw [find_eq_ok_iff, find_eq_ok_iff, find?_congr fun i => ?_]
    exact ⟨.mono fun i => (h i).mp, .mono fun i => (h i).mpr⟩

/-- **Capabilities settle actions.** Whatever interfaces are declared, known or not, in any order and as often as
one likes, the loop ends with the closure of them and the basic one, each interface once. The actions of the
closure are those that are found; and for every interface that an element may declare, they are listed each
once. -/
theorem capabilities_settle : (∀ declared, Settles declared) ∧
    ∀ i ∈ basicInterface :: supportedInterfaces, ∃ actions, Lists i actions := by
  refine ⟨settles, fun i hi => ⟨available [i], list_eq_ok hi, nodup_available [i], fun a element => ?_⟩⟩
  simp only [find_eq_ok_iff]
  rw [mem_available_iff]
  refine ⟨fun h => ⟨a.name, h⟩, ?_⟩
  rintro ⟨name, h⟩
  rwa [(find?_eq_some_iff.mp h).1]

/-- Interfaces that share what they include, one that nobody knows, and one that is declared twice. -/
theorem clickable_settles : Settles ["editable", "draggable", "clickable", "editable"] ∧
    expand ["editable", "draggable", "clickable", "editable"] =
      ["basic", "editable", "actionable", "draggable", "clickable"] ∧
    "clickable" ∈ basicInterface :: supportedInterfaces ∧
    ∃ actions, Lists "clickable" actions ∧ actions.length = 21 := by
  have hsupported : "clickable" ∈ basicInterface :: supportedInterfaces := by decide
  obtain ⟨actions, hlists⟩ := capabilities_settle.2 "clickable" hsupported
  refine ⟨capabilities_settle.1 _, by decide, hsupported, actions, hlists, ?_⟩
  have hlength : (list "clickable").map List.length = .ok 21 := by decide
  rw [hlists.listed] at hlength
  exact Except.ok.inj hlength

end PageObjects.Action
