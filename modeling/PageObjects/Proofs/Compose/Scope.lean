import Mathlib.Data.List.Flatten
import Mathlib.Data.List.Forall2
import PageObjects.Proofs.Compose.Chain
import PageObjects.Proofs.Compose.Naming
import PageObjects.Proofs.Methods

/-!
# Scopes

The names that are in scope together in a composed method (Naming Scheme, specification 4.3): its
parameters and the variables of its sequence, and for the closure of each wait the parameters, the
variables before the wait, and the closure's own. Every variable is declared by a statement at an index of
its own, and an element is looked up once in a sequence, so that the declarations of a scope differ by
their keys. Which of them can bind one name is then a matter of naming alone.

* `LinesDeclare`: the declarations of a statement, read off its lines; there is one reading
  (`LinesDeclare.unique`).
* `Declares`: what one statement declares is fresh before the statement and spent after it.
* `Threaded.declares`: so the declarations of a sequence have different keys.
* **`PageClass.ofSource_scoped`**: in every method of a page class, declarations of one scope bind
  different names, unless they may clash.
* `PageClass.clashingSource_clashes`: those that may clash sometimes do.
-/

namespace PageObjects

/-! ## Declarations of lines -/

/-- The names that the lines of a statement bind. -/
def Built.names {ε : Type} (b : Built ε) : List String := b.lines.filterMap Line.bound?

/-- The closure of a wait. -/
def Expression.closure? : Expression → Option (List (Line Simple))
  | .simple _ => none
  | .wait closure _ => some closure

/-- The closures in a statement. -/
def Built.closures (b : Built Expression) : List (List (Line Simple)) :=
  b.values.filterMap Expression.closure?

/-- The declarations of the lines of a statement at `index`, in their order. The line that evaluates last
is that of the statement's value; a line that evaluates before it looks an element of the page up, and a
verdict is the one on the value. Each binds the name of what it declares. -/
inductive LinesDeclare {ε : Type} (page : Page) (ofSimple : Simple → ε) (index : Nat) (inPredicate : Bool) :
    List (Line ε) → List Declaration → Prop
  | nil : LinesDeclare page ofSimple index inPredicate [] []
  | lookup {element : String} {e : PageElement} {lines : List (Line ε)} {ds : List Declaration}
      (helement : page.find? element = some e) (hlater : ∃ line ∈ lines, line.value?.isSome = true)
      (hrest : LinesDeclare page ofSimple index inPredicate lines ds) :
      LinesDeclare page ofSimple index inPredicate
        (.bind e.returnType (Naming.elementVariable element index inPredicate)
          (ofSimple (.getter e.getter)) :: lines)
        (.lookup element index inPredicate :: ds)
  | value {type : ResultType} {value : ε} {lines : List (Line ε)} {ds : List Declaration}
      (hlast : ∀ line ∈ lines, line.value? = none)
      (hrest : LinesDeclare page ofSimple index inPredicate lines ds) :
      LinesDeclare page ofSimple index inPredicate
        (.bind type (Naming.statementVariable index inPredicate) value :: lines)
        (.value index inPredicate :: ds)
  | perform {value : ε} {lines : List (Line ε)} {ds : List Declaration}
      (hrest : LinesDeclare page ofSimple index inPredicate lines ds) :
      LinesDeclare page ofSimple index inPredicate (.perform value :: lines) ds
  | verdict {kind : MatcherKind} {operand : String} {operands : List Operand} {lines : List (Line ε)}
      {ds : List Declaration} (hrest : LinesDeclare page ofSimple index inPredicate lines ds) :
      LinesDeclare page ofSimple index inPredicate
        (.verdict (Naming.matcherVariable index inPredicate) kind operand operands :: lines)
        (.verdict index inPredicate :: ds)
  | give {v : String} {lines : List (Line ε)} {ds : List Declaration}
      (hrest : LinesDeclare page ofSimple index inPredicate lines ds) :
      LinesDeclare page ofSimple index inPredicate (.give v :: lines) ds

namespace LinesDeclare

variable {ε : Type} {page : Page} {ofSimple : Simple → ε} {index : Nat} {inPredicate : Bool}
  {lines : List (Line ε)} {ds : List Declaration}

/-- The names that the lines bind are those of the declarations. -/
theorem names (h : LinesDeclare page ofSimple index inPredicate lines ds) :
    lines.filterMap Line.bound? = ds.map Declaration.name := by
  induction h with
  | nil => rfl
  | lookup helement hlater hrest ih => simp [Line.bound?, Declaration.name, ih]
  | value hlast hrest ih => simp [Line.bound?, Declaration.name, ih]
  | perform hrest ih => rw [List.filterMap_cons_none rfl, ih]
  | verdict hrest ih => simp [Line.bound?, Declaration.name, ih]
  | give hrest ih => rw [List.filterMap_cons_none rfl, ih]

/-- **There is one reading of the lines.** -/
theorem unique {ds' : List Declaration} (h : LinesDeclare page ofSimple index inPredicate lines ds)
    (h' : LinesDeclare page ofSimple index inPredicate lines ds') : ds = ds' := by
  induction h generalizing ds' with
  | nil => cases h'; rfl
  | @lookup element e lines ds helement hlater hrest ih =>
    generalize hname : Naming.elementVariable element index inPredicate = name at h'
    generalize e.returnType = type, ofSimple (.getter e.getter) = value at h'
    cases h' with
    | lookup helement' hlater' hrest' =>
      rw [ih hrest', Declaration.elementVariable_inj hname]
    | value hlast hrest' =>
      obtain ⟨line, hline, hvalue⟩ := hlater
      exact absurd hvalue (by simp [hlast line hline])
  | value hlast hrest ih =>
    generalize hname : Naming.statementVariable index inPredicate = name at h'
    cases h' with
    | lookup helement hlater hrest' =>
      obtain ⟨line, hline, hvalue⟩ := hlater
      exact absurd hvalue (by simp [hlast line hline])
    | value hlast' hrest' => rw [ih hrest']
  | perform hrest ih => cases h' with | perform hrest' => exact ih hrest'
  | verdict hrest ih => cases h' with | verdict hrest' => rw [ih hrest']
  | give hrest ih => cases h' with | give hrest' => exact ih hrest'

/-- The line that returns declares nothing. -/
theorem append {more : List (Line ε)} (h : LinesDeclare page ofSimple index inPredicate lines ds)
    (hmore : ∀ line ∈ more, ∃ v, line = .give v) :
    LinesDeclare page ofSimple index inPredicate (lines ++ more) ds := by
  have hnone : ∀ line ∈ more, line.value? = none := by
    intro line hline
    obtain ⟨v, rfl⟩ := hmore line hline
    rfl
  induction h with
  | nil =>
    induction more with
    | nil => exact .nil
    | cons line more ih =>
      rw [List.forall_mem_cons] at hmore hnone
      obtain ⟨v, rfl⟩ := hmore.1
      exact .give (ih hmore.2 hnone.2)
  | lookup helement hlater hrest ih =>
    obtain ⟨line, hline, hvalue⟩ := hlater
    exact .lookup helement ⟨line, List.mem_append_left _ hline, hvalue⟩ ih
  | value hlast hrest ih =>
    exact .value (fun line hline => (List.mem_append.mp hline).elim (hlast line) (hnone line)) ih
  | perform hrest ih => exact .perform ih
  | verdict hrest ih => exact .verdict ih
  | give hrest ih => exact .give ih

/-- The declarations of simple lines are the same over the expressions of a method. -/
theorem map {lines : List (Line Simple)} (h : LinesDeclare page id index inPredicate lines ds) :
    LinesDeclare page Expression.simple index inPredicate (lines.map (Line.map Expression.simple)) ds := by
  induction h with
  | nil => exact .nil
  | lookup helement hlater hrest ih =>
    obtain ⟨line, hline, hvalue⟩ := hlater
    refine .lookup helement ⟨_, List.mem_map_of_mem hline, ?_⟩ ih
    rw [Line.value?_map]
    simpa using hvalue
  | value hlast hrest ih =>
    refine .value ?_ ih
    intro line hline
    obtain ⟨line', hline', rfl⟩ := List.mem_map.mp hline
    rw [Line.value?_map, hlast line' hline']
    rfl
  | perform hrest ih => exact .perform ih
  | verdict hrest ih => exact .verdict ih
  | give hrest ih => exact .give ih

end LinesDeclare

namespace Declaration

/-- The declaration can still be made by the statements from `index` on, after the given look-ups. -/
def Fresh (index : Nat) (inPredicate : Bool) (lookups : Lookups) : Declaration → Prop
  | .parameter _ => False
  | .lookup element _ p => p = inPredicate ∧ lookups.lookup element = none
  | .value i p | .verdict i p => p = inPredicate ∧ index ≤ i

theorem Fresh.of_key_eq {index : Nat} {inPredicate : Bool} {lookups : Lookups} {d d' : Declaration}
    (h : d.Fresh index inPredicate lookups) (hkey : d.key = d'.key) :
    d'.Fresh index inPredicate lookups := by
  match d, d' with
  | .parameter _, _ => exact absurd h id
  | .lookup _ _ _, .lookup _ _ _ =>
    obtain ⟨rfl, -, rfl⟩ := by simpa [key] using hkey
    exact h
  | .value _ _, .value _ _ | .verdict _ _, .verdict _ _ =>
    obtain ⟨rfl, rfl⟩ := by simpa [key] using hkey
    exact h

theorem Fresh.mono {index : Nat} {inPredicate : Bool} {before after : Lookups} {d : Declaration}
    (hkept : ∀ element, after.lookup element = none → before.lookup element = none)
    (h : d.Fresh (index + 1) inPredicate after) : d.Fresh index inPredicate before := by
  cases d with
  | parameter name => exact h
  | lookup element i p => exact ⟨h.1, hkept element h.2⟩
  | value i p => exact ⟨h.1, by have := h.2; omega⟩
  | verdict i p => exact ⟨h.1, by have := h.2; omega⟩

/-- Declarations that bind one name may clash. -/
def Compatible (d d' : Declaration) : Prop := d.name = d'.name → d.MayClash d'

theorem pairwise_compatible {ds : List Declaration} (h : (ds.map key).Nodup) :
    ds.Pairwise Compatible := by
  rw [List.Nodup, List.pairwise_map] at h
  exact h.imp fun hkey hname => mayClash_of_name_eq hkey hname

end Declaration

/-- The statement at `index` makes the declarations `ds`, all of them fresh before it, and spent after
it. -/
structure Declares {ε : Type} (page : Page) (ofSimple : Simple → ε) (index : Nat) (inPredicate : Bool)
    (before after : Lookups) (b : Built ε) (ds : List Declaration) : Prop where
  index_eq : b.index = index
  lines : LinesDeclare page ofSimple b.index inPredicate b.lines ds
  nodup : (ds.map Declaration.key).Nodup
  fresh : ∀ d ∈ ds, d.Fresh index inPredicate before
  spent : ∀ d ∈ ds, ¬ d.Fresh (index + 1) inPredicate after
  kept : ∀ element, after.lookup element = none → before.lookup element = none

/-! ## One statement -/

variable {frame : Frame} {site : Site} {s : Statement} {lookups : Lookups}

theorem Lookups.lookup_bind {element variableName name : String} :
    (lookups.bind element variableName).lookup name = none ↔
      lookups.lookup name = none ∧ name ≠ element := by
  unfold Lookups.bind
  split
  · rename_i hknown
    refine ⟨fun hnone => ⟨hnone, ?_⟩, fun h => h.1⟩
    rintro rfl
    rw [hnone] at hknown
    exact absurd hknown (by simp)
  · rw [List.lookup_append, Option.or_eq_none_iff]
    refine and_congr_right fun _ => ?_
    rw [List.lookup_eq_none_iff]
    simp

/-- A statement looks up at most one element, not looked up before. -/
theorem Frame.Reaches.looksUp {i : Nat} {r : Receiver} {lines : List (Line Simple)}
    {after : Lookups} (hindex : site.index = i) (h : frame.Reaches site lookups s r lines after) :
    (lines = [] ∧ after = lookups) ∨
    ∃ element e, frame.page.find? element = some e ∧ lookups.lookup element = none ∧
      lines = [.bind e.returnType (Naming.elementVariable element i site.inPredicate)
        (.getter e.getter)] ∧ after = lookups.bind element (site.elementVariable element) := by
  cases h with
  | nothing haction => exact Or.inl ⟨rfl, rfl⟩
  | receiver haction haddresses =>
    cases haddresses with
    | chain hchain hchains => exact Or.inl ⟨rfl, rfl⟩
    | element hchain hfinds =>
      cases hfinds with
      | page hname => exact Or.inl ⟨rfl, rfl⟩
      | document hname => exact Or.inl ⟨rfl, rfl⟩
      | known hname helement hbound => exact Or.inl ⟨rfl, rfl⟩
      | @fresh name element hname helement hfree =>
        exact Or.inr ⟨name, element, helement, hfree, by rw [Site.elementVariable, hindex], rfl⟩

/-- Behind the lines before it, a statement declares its value, and the verdict on it. -/
theorem Site.Yields.declares {ε : Type} (page : Page) (ofSimple : Simple → ε) {i : Nat}
    {before : List (Line ε)} {value : ε} {resolved : ResultType} {b : Built ε}
    (hindex : site.index = i) (h : site.Yields before value resolved b) :
    b.index = i ∧ ∃ own vs, b.lines = before ++ own ∧ (∃ line ∈ own, line.value?.isSome = true) ∧
      LinesDeclare page ofSimple i site.inPredicate own vs ∧
      vs ∈ [[], [.value i site.inPredicate],
        [.value i site.inPredicate, .verdict i site.inPredicate]] := by
  have hvalue : site.variableName = Naming.statementVariable i site.inPredicate := by
    rw [Site.variableName, hindex]
  have hverdict : site.matcherVariable = Naming.matcherVariable i site.inPredicate := by
    rw [Site.matcherVariable, hindex]
  cases h with
  | dropped ht =>
    exact ⟨by simp [hindex], _, [], rfl, ⟨_, List.mem_singleton_self _, rfl⟩, .perform .nil, by simp⟩
  | bound hholds =>
    refine ⟨by simp [hindex], _, [.value i site.inPredicate], rfl,
      ⟨_, List.mem_singleton_self _, rfl⟩, ?_, by simp⟩
    rw [hvalue]
    exact .value (by simp) .nil
  | judged hholds =>
    refine ⟨by simp [hindex], _, [.value i site.inPredicate, .verdict i site.inPredicate],
      List.append_assoc _ _ _, ⟨_, List.mem_cons_self, rfl⟩, ?_, by simp⟩
    rw [hvalue, hverdict]
    exact .value (by simp [Line.value?]) (.verdict .nil)

/-- The variables of a statement's value and verdict are its own, whatever was looked up. -/
theorem Declaration.values_own {i : Nat} {p : Bool} {ds : List Declaration}
    (h : ds ∈ [[], [.value i p], [.value i p, .verdict i p]]) :
    (ds.map key).Nodup ∧ ∀ d ∈ ds, (∀ element, d.key ≠ .lookup element 0 p) ∧
      ∀ lookups, d.Fresh i p lookups ∧ ¬ d.Fresh (i + 1) p lookups := by
  simp only [List.mem_cons, List.not_mem_nil, or_false] at h
  rcases h with rfl | rfl | rfl
  all_goals simp [key, Fresh]

/-- What a composed action declares. -/
theorem Frame.Acts.declares {i : Nat} {b : Built Simple} {after : Lookups} {ps : List Parameter}
    (hindex : site.index = i) (h : frame.Acts site lookups s b after ps) :
    ∃ ds, Declares frame.page id i site.inPredicate lookups after b ds := by
  obtain ⟨-, hreaches, -, hyields⟩ := h
  obtain ⟨hi, own, vs, hlines, hvalue, hdeclare, hvs⟩ := hyields.declares frame.page id hindex
  obtain ⟨hnodup, hown⟩ := Declaration.values_own hvs
  rcases hreaches.looksUp hindex with ⟨rfl, rfl⟩ | ⟨element, e, helement, hfree, rfl, rfl⟩
  · exact ⟨vs, {
      index_eq := hi
      lines := by rw [hi, hlines]; exact hdeclare
      nodup := hnodup
      fresh := fun d hd => ((hown d hd).2 _).1
      spent := fun d hd => ((hown d hd).2 _).2
      kept := fun _ hnone => hnone }⟩
  · refine ⟨.lookup element i site.inPredicate :: vs, {
      index_eq := hi
      lines := by rw [hi, hlines]; exact .lookup helement hvalue hdeclare
      nodup := ?_
      fresh := List.forall_mem_cons.mpr ⟨⟨rfl, hfree⟩, fun d hd => ((hown d hd).2 _).1⟩
      spent := List.forall_mem_cons.mpr ⟨?_, fun d hd => ((hown d hd).2 _).2⟩
      kept := fun _ hnone => (Lookups.lookup_bind.mp hnone).1 }⟩
    · refine List.nodup_cons.mpr ⟨?_, hnodup⟩
      intro hmem
      obtain ⟨d, hd, hkey⟩ := List.mem_map.mp hmem
      exact (hown d hd).1 element hkey
    · rintro ⟨-, hstill⟩
      exact (Lookups.lookup_bind.mp hstill).2 rfl

/-- What a step of a method declares. -/
theorem Frame.MethodStep.declares {count index : Nat} {before after : Trail} {rest : List Statement}
    {b : Built Expression} (h : frame.MethodStep count index before s rest b after) :
    ∃ ds, Declares frame.page Expression.simple index false before.lookups after.lookups b ds := by
  obtain ⟨site, hsite, hstep⟩ := h
  obtain ⟨-, hindex, -, hpredicate, -, -⟩ := Frame.siteOf_eq_ok hsite
  obtain ⟨-, b', hwaits, rfl⟩ | ⟨-, b', hstep', rfl⟩ := Frame.composeStatement_cases hstep
  · cases hwaits with
    | mk hinner _ hyields =>
      obtain ⟨hi, own, vs, hlines, -, hdeclare, hvs⟩ :=
        hyields.declares frame.page Expression.simple hindex
      rw [hpredicate] at hvs hdeclare
      obtain ⟨hnodup, hown⟩ := Declaration.values_own hvs
      rw [List.nil_append] at hlines
      exact ⟨vs, {
        index_eq := hi
        lines := (show LinesDeclare _ _ b'.index _ b'.lines _ by rw [hi, hlines]; exact hdeclare).append
          fun _ => Frame.mem_returnLine
        nodup := hnodup
        fresh := fun d hd => ((hown d hd).2 _).1
        spent := fun d hd => ((hown d hd).2 _).2
        kept := fun _ hnone => hnone }⟩
  · obtain ⟨more, hacts, -, -⟩ := Frame.stepAction_acts hstep'
    obtain ⟨ds, hds⟩ := hacts.declares hindex
    rw [hpredicate] at hds
    exact ⟨ds, { hds with lines := hds.lines.map.append fun _ => Frame.mem_returnLine }⟩

/-- What a step of a predicate declares. -/
theorem Frame.PredicateStep.declares {count index : Nat} {before after : Trail}
    {rest : List Statement} {b : Built Simple}
    (h : frame.PredicateStep count index before s rest b after) :
    ∃ ds, Declares frame.page id index true before.lookups after.lookups b ds := by
  obtain ⟨site, more, hsite, hacts, -⟩ := h.acts
  obtain ⟨-, hindex, -, hpredicate, -, -⟩ := Frame.siteOf_eq_ok hsite
  rw [← hpredicate]
  exact hacts.declares hindex

/-! ## Sequences -/

/-- The declarations of the statements of a sequence. -/
def Declared {ε : Type} (page : Page) (ofSimple : Simple → ε) (inPredicate : Bool) :
    List (Built ε) → List (List Declaration) → Prop :=
  List.Forall₂ fun b ds => LinesDeclare page ofSimple b.index inPredicate b.lines ds

/-- **The declarations of a sequence have different keys.** -/
theorem Threaded.declares {ε : Type} {page : Page} {ofSimple : Simple → ε}
    {step : Nat → Trail → Statement → List Statement → Built ε → Trail → Prop} {inPredicate : Bool}
    {index : Nat} {trail last : Trail} {ss : List Statement} {bs : List (Built ε)}
    (hstep : ∀ {i before s rest b after}, step i before s rest b after →
      ∃ ds, Declares page ofSimple i inPredicate before.lookups after.lookups b ds)
    (h : Threaded step index trail ss bs last) :
    ∃ dss, Declared page ofSimple inPredicate bs dss ∧ (dss.flatten.map Declaration.key).Nodup ∧
      ∀ d ∈ dss.flatten, d.Fresh index inPredicate trail.lookups := by
  induction h with
  | nil => exact ⟨[], .nil, by simp, by simp⟩
  | cons hs hrest ih =>
    obtain ⟨ds, hds⟩ := hstep hs
    obtain ⟨dss, hdeclared, hnodup, hfresh⟩ := ih
    refine ⟨ds :: dss, .cons hds.lines hdeclared, ?_, ?_⟩
    · rw [List.flatten_cons, List.map_append, List.nodup_append]
      refine ⟨hds.nodup, hnodup, ?_⟩
      -- a declaration of the rest is still fresh after the statement, and its own are spent
      rintro key hkey key' hkey' rfl
      obtain ⟨d, hd, hdkey⟩ := List.mem_map.mp hkey
      obtain ⟨d', hd', rfl⟩ := List.mem_map.mp hkey'
      exact hds.spent d hd ((hfresh d' hd').of_key_eq hdkey.symm)
    · intro d hd
      rcases List.mem_append.mp (List.flatten_cons ▸ hd) with hown | hlater
      · exact hds.fresh d hown
      · exact (hfresh d hlater).mono hds.kept

/-! ## Parameters -/

/-- The parameters on a trail have different names. -/
def Trail.Distinct (trail : Trail) : Prop := (trail.parameters.map Parameter.name).Nodup

theorem addParameter_nodup {ps ps' : List Parameter} {p : Parameter}
    (hps : (ps.map Parameter.name).Nodup) (h : addParameter ps p = .ok ps') :
    (ps'.map Parameter.name).Nodup := by
  unfold addParameter at h
  split at h
  · rename_i hnew
    obtain rfl := Except.ok.inj h
    rw [List.map_append, List.nodup_append]
    refine ⟨hps, by simp, ?_⟩
    rintro name hname name' hname' rfl
    obtain ⟨q, hq, hqname⟩ := List.mem_map.mp hname
    obtain rfl : name = p.name := by simpa using hname'
    exact absurd (List.find?_eq_none.mp hnew q hq) (by simp [hqname])
  · split at h
    · obtain rfl := Except.ok.inj h
      exact hps
    · exact absurd h (by simp)

theorem addParameters_nodup {more : List Parameter} : ∀ {ps ps' : List Parameter},
    (ps.map Parameter.name).Nodup → addParameters ps more = .ok ps' →
      (ps'.map Parameter.name).Nodup := by
  induction more with
  | nil =>
    intro ps ps' hps h
    obtain rfl := pure_eq_ok.mp h
    exact hps
  | cons p more ih =>
    intro ps ps' hps h
    simp only [addParameters, List.foldlM_cons, bind_eq_ok] at h
    obtain ⟨ps₁, hadd, hrest⟩ := h
    exact ih (addParameter_nodup hps hadd) hrest

theorem Frame.collect_nodup {ps more ps' : List Parameter} (hps : (ps.map Parameter.name).Nodup)
    (h : frame.collect site ps more = .ok ps') : (ps'.map Parameter.name).Nodup := by
  unfold Frame.collect at h
  split at h
  · rename_i found hfound
    obtain rfl := Except.ok.inj h
    exact addParameters_nodup hps hfound
  · exact absurd h Frame.fail_ne_ok

theorem Frame.composePredicate_nodup {ps ps' : List Parameter} {ss : List Statement}
    {inner : List (Built Simple)} (hps : (ps.map Parameter.name).Nodup)
    (h : frame.composePredicate ps ss = .ok (inner, ps')) : (ps'.map Parameter.name).Nodup := by
  obtain ⟨last, hwalk, rfl⟩ := Frame.composePredicate_threaded h
  refine hwalk.inv_last Trail.Distinct (show Trail.Distinct { parameters := ps } from hps) ?_
  intro i before s rest b after hbefore hstep
  obtain ⟨site, more, -, -, hcollect⟩ := hstep.acts
  exact Frame.collect_nodup hbefore hcollect

theorem Frame.MethodStep.distinct {count index : Nat} {before after : Trail} {rest : List Statement}
    {b : Built Expression} (hbefore : before.Distinct)
    (h : frame.MethodStep count index before s rest b after) : after.Distinct := by
  obtain ⟨site, hsite, hstep⟩ := h
  obtain ⟨-, b', hwaits, rfl⟩ | ⟨-, b', hstep', rfl⟩ := Frame.composeStatement_cases hstep
  · cases hwaits with
    | mk hinner hpredicate hyields => exact Frame.composePredicate_nodup hbefore hpredicate
  · obtain ⟨more, -, hcollect, -⟩ := Frame.stepAction_acts hstep'
    exact Frame.collect_nodup hbefore hcollect

/-! ## Scopes of a method -/

/-- The parameters of a method as declarations. -/
def Composition.parameterDeclarations (c : Composition) : List Declaration :=
  c.parameters.map fun p => .parameter p.name

/-- The declarations of a method that is composed of the statements `ss`: `own` are those of the lines of
its statements. In the scope of the sequence, and in the scope of the closure of each wait, `R` holds of
any two. -/
structure Composition.Scoped (R : Declaration → Declaration → Prop) (frame : Frame) (ss : List Statement)
    (c : Composition) (own : List (List Declaration)) : Prop where
  /-- What the statements declare, read off their lines. -/
  declared : Declared frame.page Expression.simple false c.statements own
  /-- The scope of the sequence: the parameters, and the variables of the statements. -/
  sequence : (c.parameterDeclarations ++ own.flatten).Pairwise R
  /-- The scope of a closure: the parameters, the variables of the statements before the wait, and what
  the statements declare that the predicate of the wait is composed to. -/
  closures : ∀ (i : Nat) (b : Built Expression), c.statements[i]? = some b →
    ∀ closure ∈ b.closures, ∃ s parameters inner more ds, ss[i]? = some s ∧
      frame.composePredicate parameters s.inner = .ok (inner, more) ∧
      closure = inner.flatMap Built.lines ∧ Declared frame.page id true inner ds ∧
      (c.parameterDeclarations ++ (own.take i).flatten ++ ds.flatten).Pairwise R

/-- The names of each scope of a method: first that of the sequence, then those of closures. -/
def Composition.scopes (c : Composition) : List (List String) :=
  let parameters := c.parameters.map Parameter.name
  (parameters ++ c.statements.flatMap Built.names) ::
    c.statements.zipIdx.flatMap fun entry => entry.1.closures.map fun closure =>
      parameters ++ (c.statements.take entry.2).flatMap Built.names ++ closure.filterMap Line.bound?

theorem Declared.names {ε : Type} {page : Page} {ofSimple : Simple → ε} {inPredicate : Bool}
    {bs : List (Built ε)} {dss : List (List Declaration)} (h : Declared page ofSimple inPredicate bs dss) :
    bs.flatMap Built.names = dss.flatten.map Declaration.name := by
  induction h with
  | nil => rfl
  | cons hb hrest ih =>
    rw [List.flatMap_cons, List.flatten_cons, List.map_append, ih, Built.names, hb.names]

/-- Where all declarations of a scope bind different names, no name of the scope stands twice. -/
theorem Composition.Scoped.nodup {ss : List Statement} {c : Composition}
    {own : List (List Declaration)} (h : c.Scoped (fun d d' => d.name ≠ d'.name) frame ss own) : ∀ scope ∈ c.scopes, scope.Nodup := by
  have hparameters : c.parameters.map Parameter.name =
      c.parameterDeclarations.map Declaration.name := by
    simp [Composition.parameterDeclarations, Function.comp_def, Declaration.name]
  intro scope hscope
  rcases List.mem_cons.mp hscope with rfl | hclosure
  · rw [hparameters, h.declared.names, ← List.map_append, List.Nodup, List.pairwise_map]
    exact h.sequence
  · obtain ⟨⟨b, i⟩, hentry, hclosure⟩ := List.mem_flatMap.mp hclosure
    obtain ⟨closure, hmem, rfl⟩ := List.mem_map.mp hclosure
    obtain ⟨s, ps, inner, more, ds, -, -, rfl, hdeclared, hpairwise⟩ :=
      h.closures i b (List.mem_zipIdx_iff_getElem?.mp hentry) closure hmem
    have hbefore : Declared frame.page Expression.simple false (c.statements.take i) (own.take i) :=
      List.forall₂_take i h.declared
    have hinner : (inner.flatMap Built.lines).filterMap Line.bound? =
        ds.flatten.map Declaration.name := by
      rw [List.filterMap_flatMap, ← hdeclared.names]
      rfl
    rw [hparameters, hbefore.names, hinner, ← List.map_append, ← List.map_append, List.Nodup,
      List.pairwise_map]
    exact hpairwise

/-- An action has no closures. -/
theorem Built.closures_map_simple {b : Built Simple} : (b.map Expression.simple).closures = [] := by
  rw [Built.closures, Built.values_map, List.filterMap_eq_nil_iff]
  intro value hvalue
  obtain ⟨simple, -, rfl⟩ := List.mem_map.mp hvalue
  rfl

/-- The closure of a step of a method is that of its wait: what the predicate is composed to. -/
theorem Frame.MethodStep.closures {count index : Nat} {before after : Trail} {rest : List Statement}
    {b : Built Expression} (h : frame.MethodStep count index before s rest b after) :
    ∀ closure ∈ b.closures, ∃ inner more,
      frame.composePredicate before.parameters s.inner = .ok (inner, more) ∧
      closure = inner.flatMap Built.lines := by
  intro closure hclosure
  obtain ⟨site, hsite, hstep⟩ := h
  obtain ⟨-, b', hwaits, rfl⟩ | ⟨-, b', hstep', rfl⟩ := Frame.composeStatement_cases hstep
  · cases hwaits with
    | mk hinner hpredicate hyields =>
      rw [Built.closures, Frame.finish_values, hyields.values_eq] at hclosure
      obtain rfl := List.mem_singleton.mp hclosure
      exact ⟨_, _, hpredicate, rfl⟩
  · rw [Built.closures, Frame.finish_values, ← Built.closures, Built.closures_map_simple] at hclosure
    exact absurd hclosure (by simp)

/-- The declarations of a predicate have different keys. -/
theorem Frame.composePredicate_declares {ps ps' : List Parameter} {ss : List Statement}
    {inner : List (Built Simple)} (h : frame.composePredicate ps ss = .ok (inner, ps')) :
    ∃ dss, Declared frame.page id true inner dss ∧ (dss.flatten.map Declaration.key).Nodup ∧
      ∀ d ∈ dss.flatten, d.Fresh 0 true [] := by
  obtain ⟨last, hwalk, -⟩ := Frame.composePredicate_threaded h
  exact hwalk.declares fun hstep => hstep.declares

/-- Keys of parameters are no keys of variables. -/
theorem Composition.nodup_parameters_append {c : Composition} {ds : List Declaration}
    (hparameters : (c.parameters.map Parameter.name).Nodup) (hds : (ds.map Declaration.key).Nodup)
    (hfresh : ∀ d ∈ ds, ∃ i p lookups, d.Fresh i p lookups) :
    ((c.parameterDeclarations ++ ds).map Declaration.key).Nodup := by
  rw [List.map_append, List.nodup_append]
  refine ⟨?_, hds, ?_⟩
  · have hkeys : c.parameterDeclarations.map Declaration.key =
        (c.parameters.map Parameter.name).map Declaration.parameter := by
      simp [Composition.parameterDeclarations, Function.comp_def, Declaration.key]
    rw [hkeys, List.Nodup, List.pairwise_map]
    exact hparameters.imp fun hne he => hne (Declaration.parameter.inj he)
  · rintro key hkey key' hkey' rfl
    obtain ⟨d, hd, hdkey⟩ := List.mem_map.mp hkey
    obtain ⟨q, -, rfl⟩ := List.mem_map.mp hd
    obtain ⟨d', hd', hdkey'⟩ := List.mem_map.mp hkey'
    obtain ⟨i, p, lookups, hd'fresh⟩ := hfresh d' hd'
    exact hd'fresh.of_key_eq (hdkey'.trans hdkey.symm)

/-- Variables of a closure are no variables of the sequence around it. -/
theorem Declaration.nodup_append_inner {ds inner : List Declaration}
    (hds : (ds.map key).Nodup) (hinner : (inner.map key).Nodup)
    (hfresh : ∀ d ∈ ds, d.Fresh 0 false []) (hinnerFresh : ∀ d ∈ inner, d.Fresh 0 true []) :
    ((ds ++ inner).map key).Nodup := by
  rw [List.map_append, List.nodup_append]
  refine ⟨hds, hinner, ?_⟩
  rintro _ hkey _ hkey' rfl
  obtain ⟨d, hd, hdkey⟩ := List.mem_map.mp hkey
  obtain ⟨d', hd', hdkey'⟩ := List.mem_map.mp hkey'
  have hboth := (hfresh d hd).of_key_eq (hdkey.trans hdkey'.symm)
  have hinside := hinnerFresh d' hd'
  cases d' with
  | parameter name => exact hinside
  | lookup element i p => exact absurd (hboth.1.symm.trans hinside.1) (by simp)
  | value i p => exact absurd (hboth.1.symm.trans hinside.1) (by simp)
  | verdict i p => exact absurd (hboth.1.symm.trans hinside.1) (by simp)

/-- **In every composed method**, declarations of one scope that bind one name may clash. -/
theorem compose_scoped {ss : List Statement} {c : Composition} (h : compose frame ss = .ok c) :
    ∃ own, c.Scoped Declaration.Compatible frame ss own := by
  obtain ⟨last, -, hwalk, -, -, hparameters⟩ := compose_threaded h
  have hdistinct : (c.parameters.map Parameter.name).Nodup := by
    rw [← hparameters]
    exact hwalk.inv_last Trail.Distinct (by simp [Trail.Distinct])
      fun hbefore hstep => hstep.distinct hbefore
  obtain ⟨own, hdeclared, hnodup, hfresh⟩ := hwalk.declares fun hstep => hstep.declares
  refine ⟨own, hdeclared, ?_, ?_⟩
  · exact Declaration.pairwise_compatible (Composition.nodup_parameters_append hdistinct hnodup
      fun d hd => ⟨_, _, _, hfresh d hd⟩)
  · intro i b hb closure hclosure
    have hi : i < ss.length := by
      have := (List.getElem?_eq_some_iff.mp hb).1
      rwa [hwalk.length_eq] at this
    obtain ⟨before, b', after, hb', hstep, -⟩ := hwalk.step_at (fun _ => True) trivial
      (fun _ _ => trivial) (List.getElem?_eq_getElem hi)
    obtain rfl : b' = b := by simpa [hb'] using hb
    obtain ⟨inner, more, hpredicate, rfl⟩ := hstep.closures closure hclosure
    obtain ⟨ds, hdeclares, hinner, hinnerFresh⟩ := Frame.composePredicate_declares hpredicate
    refine ⟨_, _, inner, more, ds, List.getElem?_eq_getElem hi, hpredicate, rfl, hdeclares, ?_⟩
    have hsub : (own.take i).flatten.Sublist own.flatten := List.Sublist.flatten (List.take_sublist i own)
    have hbefore : ∀ d ∈ (own.take i).flatten, d.Fresh 0 false [] := fun d hd =>
      hfresh d (hsub.subset hd)
    rw [List.append_assoc]
    refine Declaration.pairwise_compatible (Composition.nodup_parameters_append hdistinct
      (Declaration.nodup_append_inner ((hsub.map _).nodup hnodup) hinner hbefore hinnerFresh) ?_)
    intro d hd
    rcases List.mem_append.mp hd with houter | hinside
    · exact ⟨_, _, _, hbefore d houter⟩
    · exact ⟨_, _, _, hinnerFresh d hinside⟩

/-! ## Page classes -/

namespace PageClass

/-- In every scope of every method that a source generates, `R` holds of any two declarations. -/
def Scoped (R : Declaration → Declaration → Prop) (source : Source) (name package : String)
    (pc : PageClass) : Prop :=
  ∀ m ∈ pc.methods ++ pc.beforeLoad.toList, ∃ frame ss c,
    Composes source name package m frame ss c ∧ ∃ own, c.Scoped R frame ss own

/-- **In every method of a page class**, the statements that run before loading included, two
declarations of one scope bind different names, unless one is a parameter and the other a variable,
or one looks an element up and the other is a variable whose name has the same stem. -/
theorem ofSource_scoped {source : Source} {name package : String} {pc : PageClass}
    (h : ofSource source name package = .ok pc) :
    pc.Scoped Declaration.Compatible source name package := by
  intro m hm
  obtain ⟨frame, ss, c, hcomposes⟩ := ofSource_composes h m hm
  obtain ⟨-, -, -, hcompose, -⟩ := hcomposes.made
  exact ⟨frame, ss, c, hcomposes, compose_scoped hcompose⟩

/-! ## Names that clash -/

/-- A page object whose three methods each bind one name twice in a scope: `read` binds the variable
of a value like the look-up of the element `statement`, `fill` has a parameter named like a look-up,
and `await` looks up `field` in a closure under the name of `pfield`. -/
def clashingSource : Source :=
  let element (name : String) (interfaces : List Json) : Json := .object
    [("name", .text name), ("type", .list interfaces), ("selector", .object [("css", .text "a")])]
  let method (name : String) (statements : List Json) : Json := .object
    [("name", .text name), ("compose", .list statements)]
  .value (.object
    [("elements", .list
      [element "statement" [], element "field" [.text "editable"], element "pfield" []]),
    ("methods", .list
      [method "read" [.object [("element", .text "statement"), ("apply", .text "getText")]],
      method "fill" [.object [("element", .text "field"), ("apply", .text "setText"),
        ("args", .list [.object [("name", .text "field0"), ("type", .text "string")]])]],
      method "await" [.object [("element", .text "pfield"), ("apply", .text "getText")],
        .object [("apply", .text "waitFor"), ("predicate", .list
          [.object [("element", .text "field"), ("apply", .text "isVisible")]])]]])])

/-- **Names do clash**: every method of this page object is generated, and has a scope in which two
declarations bind one name. -/
theorem clashingSource_clashes : ∃ pc, ofSource clashingSource "Page" "" = .ok pc ∧
    pc.methods.length = 3 ∧ ∀ m ∈ pc.methods, ¬ ∃ frame ss c,
      Composes clashingSource "Page" "" m frame ss c ∧
        ∃ own, c.Scoped (fun d d' => d.name ≠ d'.name) frame ss own := by
  have hall : ((Document.load clashingSource).toOption.all fun d =>
      (pageOf d "Page" "").toOption.all fun page => d.beforeLoad.isEmpty && d.methods.all fun m =>
        (frameOf page m).toOption.all fun frame => (compose frame m.compose).toOption.all fun c =>
          !(c.scopes.all fun scope => decide scope.Nodup)) = true := by decide +kernel
  have hclash : ∀ {m frame ss c own}, Composes clashingSource "Page" "" m frame ss c →
      ¬ c.Scoped (fun d d' => d.name ≠ d'.name) frame ss own := by
    intro m frame ss c own hcomposes hscoped
    have hnodup : (c.scopes.all fun scope => decide scope.Nodup) = true :=
      List.all_eq_true.mpr fun scope hscope => decide_eq_true (hscoped.nodup scope hscope)
    cases hcomposes with
    | method hload hpage hm hframe hcompose =>
      simp only [hload, hpage, Except.toOption, Option.all_some, Bool.and_eq_true] at hall
      have hm' := List.all_eq_true.mp hall.2 _ hm
      simp only [hframe, hcompose, Option.all_some, hnodup] at hm'
      exact absurd hm' (by simp)
    | beforeLoad hload hpage hcompose =>
      simp only [hload, hpage, Except.toOption, Option.all_some, Bool.and_eq_true] at hall
      rw [List.isEmpty_iff.mp hall.1] at hcompose
      exact absurd hcompose (by simp [compose, Frame.composeSequence, bind, Except.bind])
  have hok : (ofSource clashingSource "Page" "").toOption.any (·.methods.length == 3) = true := by
    decide
  cases hpc : ofSource clashingSource "Page" "" with
  | error e => rw [hpc] at hok; exact absurd hok (by simp [Except.toOption])
  | ok pc =>
    rw [hpc] at hok
    refine ⟨pc, rfl, by simpa [Except.toOption] using hok, ?_⟩
    rintro m - ⟨frame, ss, c, hcomposes, own, hscoped⟩
    exact hclash hcomposes hscoped

/-- The generated methods of that page object obey the rule of scopes all the same. -/
theorem clashingSource_scoped : ∃ pc, ofSource clashingSource "Page" "" = .ok pc ∧
    pc.Scoped Declaration.Compatible clashingSource "Page" "" := by
  have hok : (ofSource clashingSource "Page" "").toOption.isSome = true := by decide
  cases hpc : ofSource clashingSource "Page" "" with
  | error e => rw [hpc] at hok; exact absurd hok (by simp [Except.toOption])
  | ok pc => exact ⟨pc, rfl, ofSource_scoped hpc⟩

end PageClass

end PageObjects
