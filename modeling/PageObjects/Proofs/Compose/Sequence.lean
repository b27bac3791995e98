import PageObjects.Proofs.Compose.Statement

/-!
# Sequences of statements

A method and a predicate are composed statement by statement, each step handing its trail to the
next. `Threaded` is that walk for any step; `Threaded.step_at` and `Threaded.link` read single steps and
neighbouring steps off it, and `Threaded.step_after` and `Threaded.history` what has happened in front of
a step, so that the induction over a sequence is done once. `Arrives` is a walk that need not come to its
end, and `walk_eq_error` finds the step at which one fails.

* `Frame.MethodStep`, `Frame.PredicateStep`: one step of a method, and of a predicate.
* `Frame.composeSequence_threaded`, `Frame.composePredicate_threaded`: what is composed is a walk.
* `compose_threaded`: so is a method, from an empty trail.
-/

namespace PageObjects

/-! ## Walks -/

/-- A walk over statements from an index on: each becomes a `β`, and the trail after it is the trail
before the next. A step sees the statements that are still to come. -/
inductive Threaded {β : Type} (step : Nat → Trail → Statement → List Statement → β → Trail → Prop) :
    Nat → Trail → List Statement → List β → Trail → Prop
  | nil (index : Nat) (trail : Trail) : Threaded step index trail [] [] trail
  | cons {index : Nat} {before after last : Trail} {s : Statement} {rest : List Statement} {b : β}
      {others : List β} (hstep : step index before s rest b after)
      (hrest : Threaded step (index + 1) after rest others last) :
      Threaded step index before (s :: rest) (b :: others) last

namespace Threaded

variable {β : Type} {step : Nat → Trail → Statement → List Statement → β → Trail → Prop}
  {index : Nat} {trail last : Trail} {ss : List Statement} {bs : List β}

theorem length_eq (h : Threaded step index trail ss bs last) : bs.length = ss.length := by
  induction h with
  | nil => rfl
  | cons hstep hrest ih => simp only [List.length_cons, ih]

theorem ne_nil (h : Threaded step index trail ss bs last) (hne : ss ≠ []) : bs ≠ [] := by
  rw [← List.length_pos_iff, h.length_eq, List.length_pos_iff]
  exact hne

/-- **Each statement of a walk takes its step**, from a trail that has every property which the
first trail has and the steps keep. -/
theorem step_at (Inv : Trail → Prop) (hinit : Inv trail)
    (hkeep : ∀ {i before s rest b after}, Inv before → step i before s rest b after → Inv after)
    (h : Threaded step index trail ss bs last) {i : Nat} {s : Statement} (hs : ss[i]? = some s) :
    ∃ before b after, bs[i]? = some b ∧ step (index + i) before s (ss.drop (i + 1)) b after ∧
      Inv before := by
  induction h generalizing i with
  | nil => exact absurd hs (by simp)
  | @cons index before after last s' rest b others hstep hrest ih =>
    cases i with
    | zero =>
      obtain rfl : s' = s := by simpa using hs
      exact ⟨before, b, after, rfl, hstep, hinit⟩
    | succ i =>
      obtain ⟨before', b', after', hb, hstep', hinv⟩ :=
        ih (hkeep hinit hstep) (i := i) (by simpa using hs)
      refine ⟨before', b', after', by simpa using hb, ?_, hinv⟩
      rw [show index + (i + 1) = index + 1 + i by omega]
      simpa using hstep'

/-- **Neighbouring statements of a walk share a trail.** -/
theorem link (h : Threaded step index trail ss bs last) {i : Nat} {s s' : Statement}
    (hs : ss[i]? = some s) (hs' : ss[i + 1]? = some s') :
    ∃ before b middle b' after, bs[i]? = some b ∧ bs[i + 1]? = some b' ∧
      step (index + i) before s (ss.drop (i + 1)) b middle ∧
      step (index + (i + 1)) middle s' (ss.drop (i + 2)) b' after := by
  induction h generalizing i with
  | nil => exact absurd hs (by simp)
  | @cons index before middle last t rest b others hstep hrest ih =>
    cases i with
    | zero =>
      obtain rfl : t = s := by simpa using hs
      cases hrest with
      | nil => exact absurd hs' (by simp)
      | @cons _ _ after _ t' rest' b' others' hstep' hrest' =>
        obtain rfl : t' = s' := by simpa using hs'
        exact ⟨before, b, middle, b', after, rfl, rfl, hstep, hstep'⟩
    | succ i =>
      obtain ⟨before', b₁, middle', b₂, after', hb₁, hb₂, h₁, h₂⟩ :=
        ih (i := i) (by simpa using hs) (by simpa using hs')
      refine ⟨before', b₁, middle', b₂, after', by simpa using hb₁, by simpa using hb₂, ?_, ?_⟩
      · rw [show index + (i + 1) = index + 1 + i by omega]
        simpa using h₁
      · rw [show index + (i + 1 + 1) = index + 1 + (i + 1) by omega]
        simpa using h₂

/-- What every step establishes of its outcome holds of every outcome of a walk. -/
theorem forall_mem (Inv : Trail → Prop) {P : β → Prop} (hinit : Inv trail)
    (hkeep : ∀ {i before s rest b after}, Inv before → step i before s rest b after →
      P b ∧ Inv after)
    (h : Threaded step index trail ss bs last) : ∀ b ∈ bs, P b := by
  induction h with
  | nil => intro b hb; exact absurd hb (by simp)
  | cons hstep hrest ih =>
    obtain ⟨hb, hafter⟩ := hkeep hinit hstep
    intro b' hb'
    rcases List.mem_cons.mp hb' with rfl | hb'
    · exact hb
    · exact ih hafter b' hb'

/-- What the first trail has and the steps keep, the last trail has. -/
theorem inv_last (Inv : Trail → Prop) (hinit : Inv trail)
    (hkeep : ∀ {i before s rest b after}, Inv before → step i before s rest b after → Inv after)
    (h : Threaded step index trail ss bs last) : Inv last := by
  induction h with
  | nil => exact hinit
  | cons hstep hrest ih => exact ih (hkeep hinit hstep)

/-- A history is what holds of the statements behind a step, of what they became, and of the trail in front
of it. -/
theorem step_after_from (Inv : List Statement → List β → Trail → Prop)
    (hkeep : ∀ {done made before s rest b after}, Inv done made before →
      step done.length before s rest b after → Inv (done ++ [s]) (made ++ [b]) after)
    (h : Threaded step index trail ss bs last) {done : List Statement} {made : List β}
    (hlength : done.length = index) (hinit : Inv done made trail) {i : Nat} {s : Statement}
    (hs : ss[i]? = some s) :
    ∃ before b after, bs[i]? = some b ∧ step (index + i) before s (ss.drop (i + 1)) b after ∧
      Inv (done ++ ss.take i) (made ++ bs.take i) before := by
  induction h generalizing done made i with
  | nil => exact absurd hs (by simp)
  | @cons index before after last t rest b others hstep hrest ih =>
    cases i with
    | zero =>
      obtain rfl : t = s := by simpa using hs
      exact ⟨before, b, after, rfl, hstep, by simpa using hinit⟩
    | succ i =>
      have hnext := hkeep hinit (hlength ▸ hstep)
      obtain ⟨before', b', after', hb, hstep', hinv⟩ :=
        ih (by simp [hlength]) hnext (i := i) (by simpa using hs)
      refine ⟨before', b', after', by simpa using hb, ?_, by simpa using hinv⟩
      rw [show index + (i + 1) = index + 1 + i by omega]
      simpa using hstep'

/-- **Each statement of a walk takes its step with a history**: one that holds in front of the first step
and is kept by every step. -/
theorem step_after (Inv : List Statement → List β → Trail → Prop)
    (hkeep : ∀ {done made before s rest b after}, Inv done made before →
      step done.length before s rest b after → Inv (done ++ [s]) (made ++ [b]) after)
    (h : Threaded step 0 trail ss bs last) (hinit : Inv [] [] trail) {i : Nat} {s : Statement}
    (hs : ss[i]? = some s) :
    ∃ before b after, bs[i]? = some b ∧ step i before s (ss.drop (i + 1)) b after ∧
      Inv (ss.take i) (bs.take i) before := by
  simpa using h.step_after_from Inv hkeep rfl hinit hs

theorem history_from (Inv : List Statement → List β → Trail → Prop)
    (hkeep : ∀ {done made before s rest b after}, Inv done made before →
      step done.length before s rest b after → Inv (done ++ [s]) (made ++ [b]) after)
    (h : Threaded step index trail ss bs last) {done : List Statement} {made : List β}
    (hlength : done.length = index) (hinit : Inv done made trail) :
    Inv (done ++ ss) (made ++ bs) last := by
  induction h generalizing done made with
  | nil => simpa using hinit
  | cons hstep hrest ih =>
    have hnext := hkeep hinit (hlength ▸ hstep)
    simpa using ih (by simp [hlength]) hnext

/-- The history of a whole walk. -/
theorem history (Inv : List Statement → List β → Trail → Prop)
    (hkeep : ∀ {done made before s rest b after}, Inv done made before →
      step done.length before s rest b after → Inv (done ++ [s]) (made ++ [b]) after)
    (h : Threaded step 0 trail ss bs last) (hinit : Inv [] [] trail) : Inv ss bs last := by
  simpa using h.history_from Inv hkeep rfl hinit

/-- A walk over other outcomes. -/
theorem map {γ : Type} {step' : Nat → Trail → Statement → List Statement → γ → Trail → Prop}
    (f : β → γ)
    (himp : ∀ {i before s rest b after}, step i before s rest b after →
      step' i before s rest (f b) after)
    (h : Threaded step index trail ss bs last) : Threaded step' index trail ss (bs.map f) last := by
  induction h with
  | nil index trail => exact .nil index trail
  | cons hstep hrest ih => exact .cons (himp hstep) ih

theorem imp {step' : Nat → Trail → Statement → List Statement → β → Trail → Prop}
    (himp : ∀ {i before s rest b after}, step i before s rest b after → step' i before s rest b after)
    (h : Threaded step index trail ss bs last) : Threaded step' index trail ss bs last := by
  have hmap : Threaded step' index trail ss (bs.map id) last := h.map id himp
  simpa using hmap

/-- Every step of a walk is that of one of its statements. -/
theorem attach (h : Threaded step index trail ss bs last) :
    Threaded (fun i before s rest b after => s ∈ ss ∧ step i before s rest b after) index trail ss bs
      last := by
  induction h with
  | nil index trail => exact .nil index trail
  | cons hstep hrest ih =>
    exact .cons ⟨List.mem_cons_self, hstep⟩
      (ih.imp fun hmem => ⟨List.mem_cons_of_mem _ hmem.1, hmem.2⟩)

end Threaded

/-! ## Walks that stop -/

/-- A walk over statements from an index on that has come to the one at index `i`: those in front of it took
their steps. -/
inductive Arrives {β : Type} (step : Nat → Trail → Statement → List Statement → β → Trail → Prop) :
    Nat → Trail → List Statement → Nat → Trail → Statement → List Statement → Prop
  | here {index : Nat} {trail : Trail} {s : Statement} {rest : List Statement} :
      Arrives step index trail (s :: rest) index trail s rest
  | later {index i : Nat} {before after found : Trail} {s s' : Statement} {rest rest' : List Statement}
      {b : β} (hstep : step index before s rest b after)
      (hrest : Arrives step (index + 1) after rest i found s' rest') :
      Arrives step index before (s :: rest) i found s' rest'

section

variable {β : Type} {step : Nat → Trail → Statement → List Statement → β → Trail → Prop}
  {index : Nat} {trail : Trail} {ss : List Statement}

theorem Arrives.getElem? {i : Nat} {found : Trail} {s : Statement} {rest : List Statement}
    (h : Arrives step index trail ss i found s rest) : index ≤ i ∧ ss[i - index]? = some s := by
  induction h with
  | here => simp
  | @later index i _ _ _ _ _ _ _ _ hstep hrest ih =>
    obtain ⟨hle, hs⟩ := ih
    refine ⟨by omega, ?_⟩
    rw [show i - index = (i - (index + 1)) + 1 by omega, List.getElem?_cons_succ]
    exact hs

/-- **A walk that takes its steps one by one fails exactly where a step fails** to which it has come. -/
theorem walk_eq_error
    (stepAt : Nat → Trail → Statement → List Statement → Except ComposeError (β × Trail))
    {walk : Nat → Trail → List Statement → Except ComposeError (List β × List Parameter)}
    (hnil : ∀ index trail, walk index trail [] = .ok ([], trail.parameters))
    (hcons : ∀ index trail s rest, walk index trail (s :: rest) =
      stepAt index trail s rest >>= fun stepped =>
        (walk (index + 1) stepped.2 rest).map fun others => (stepped.1 :: others.1, others.2))
    (hstep : ∀ index trail s rest b after,
      stepAt index trail s rest = .ok (b, after) ↔ step index trail s rest b after)
    {e : ComposeError} :
    walk index trail ss = .error e ↔ ∃ i found s rest,
      Arrives step index trail ss i found s rest ∧ stepAt i found s rest = .error e := by
  induction ss generalizing index trail with
  | nil =>
    simp only [hnil, reduceCtorEq, false_iff]
    rintro ⟨i, found, s, rest, harrives, -⟩
    cases harrives
  | cons s rest ih =>
    rw [hcons]
    cases hs : stepAt index trail s rest with
    | error e' =>
      constructor
      · intro h
        obtain rfl : e' = e := Except.error.inj h
        exact ⟨index, trail, s, rest, .here, hs⟩
      · rintro ⟨i, found, s', rest', harrives, herror⟩
        cases harrives with
        | here =>
          obtain rfl : e' = e := Except.error.inj (hs.symm.trans herror)
          rfl
        | later hok hrest => exact absurd (hs.symm.trans ((hstep ..).mpr hok)) (by simp)
    | ok stepped =>
      obtain ⟨b, after⟩ := stepped
      have hrest : (walk (index + 1) after rest).map (fun others => (b :: others.1, others.2)) =
          .error e ↔ walk (index + 1) after rest = .error e := by
        cases walk (index + 1) after rest <;> simp [Except.map]
      rw [ok_bind, hrest, ih]
      constructor
      · rintro ⟨i, found, s', rest', harrives, herror⟩
        exact ⟨i, found, s', rest', .later ((hstep ..).mp hs) harrives, herror⟩
      · rintro ⟨i, found, s', rest', harrives, herror⟩
        cases harrives with
        | here => exact absurd (hs.symm.trans herror) (by simp)
        | later hok harrives =>
          obtain ⟨rfl, rfl⟩ := Prod.mk.inj (Except.ok.inj (hs.symm.trans ((hstep ..).mpr hok)))
          exact ⟨i, found, s', rest', harrives, herror⟩

end

/-! ## The walks of methods and predicates -/

/-- The next statement chains on the value of this one. -/
def chainsNext (rest : List Statement) : Bool := (rest.head?.map Statement.chain).getD false

namespace Frame

variable {frame : Frame} {site : Site} {count index : Nat} {trail : Trail} {ss : List Statement}

/-- One step of a method of `count` statements. -/
def MethodStep (frame : Frame) (count index : Nat) (before : Trail) (s : Statement)
    (rest : List Statement) (b : Built Expression) (after : Trail) : Prop :=
  ∃ site, frame.siteOf false count index before.previous s = .ok site ∧
    frame.composeStatement site before s (chainsNext rest) = .ok (b, after)

/-- One step of a predicate of `count` statements. -/
def PredicateStep (frame : Frame) (count index : Nat) (before : Trail) (s : Statement)
    (_ : List Statement) (b : Built Simple) (after : Trail) : Prop :=
  ∃ site, frame.siteOf true count index before.previous s = .ok site ∧ s.isWait = false ∧
    frame.stepAction site before s = .ok (b, after)

theorem composeSequence_threaded : ∀ {ss : List Statement} {index : Nat} {trail : Trail}
    {bs : List (Built Expression)} {ps : List Parameter},
    frame.composeSequence count index trail ss = .ok (bs, ps) →
      ∃ last, Threaded (frame.MethodStep count) index trail ss bs last ∧ last.parameters = ps
  | [], index, trail, bs, ps, h => by
    obtain ⟨rfl, rfl⟩ := by simpa [composeSequence] using h
    exact ⟨trail, .nil index trail, rfl⟩
  | s :: rest, index, trail, bs, ps, h => by
    simp only [composeSequence, bind_eq_ok] at h
    obtain ⟨site, hsite, ⟨b, after⟩, hstep, ⟨others, ps'⟩, hrest, he⟩ := h
    obtain ⟨rfl, rfl⟩ := by simpa [pure_eq_ok] using he
    obtain ⟨last, hwalk, rfl⟩ := composeSequence_threaded hrest
    exact ⟨last, .cons ⟨site, hsite, hstep⟩ hwalk, rfl⟩

theorem composePredicateFrom_threaded : ∀ {ss : List Statement} {index : Nat} {trail : Trail}
    {bs : List (Built Simple)} {ps : List Parameter},
    frame.composePredicateFrom count index trail ss = .ok (bs, ps) →
      ∃ last, Threaded (frame.PredicateStep count) index trail ss bs last ∧ last.parameters = ps
  | [], index, trail, bs, ps, h => by
    obtain ⟨rfl, rfl⟩ := by simpa [composePredicateFrom] using h
    exact ⟨trail, .nil index trail, rfl⟩
  | s :: rest, index, trail, bs, ps, h => by
    simp only [composePredicateFrom, bind_eq_ok] at h
    obtain ⟨site, hsite, h⟩ := h
    split at h
    · exact absurd h fail_ne_ok
    · rename_i hwait
      obtain ⟨⟨b, after⟩, hstep, h⟩ := bind_eq_ok.mp h
      obtain ⟨⟨others, ps'⟩, hrest, he⟩ := bind_eq_ok.mp h
      obtain ⟨rfl, rfl⟩ := by simpa [pure_eq_ok] using he
      obtain ⟨last, hwalk, rfl⟩ := composePredicateFrom_threaded hrest
      exact ⟨last, .cons ⟨site, hsite, by simpa using hwait, hstep⟩ hwalk, rfl⟩

theorem composePredicate_threaded {parameters ps : List Parameter} {bs : List (Built Simple)}
    (h : frame.composePredicate parameters ss = .ok (bs, ps)) :
    ∃ last, Threaded (frame.PredicateStep ss.length) 0 { parameters } ss bs last ∧
      last.parameters = ps :=
  composePredicateFrom_threaded h

/-! ## Sites -/

theorem siteOf_eq_ok {inPredicate : Bool} {previous : Option ResultType} {s : Statement}
    (h : frame.siteOf inPredicate count index previous s = .ok site) :
    frame.page.resolve s.returnType s.returnAll = .ok site.declared ∧ site.index = index ∧
      site.previous = previous ∧ site.inPredicate = inPredicate ∧
      site.isLast = (!inPredicate && index + 1 == count) ∧ site.returnAll = s.returnAll := by
  unfold siteOf at h
  split at h
  · rename_i declared hdeclared
    obtain rfl := Except.ok.inj h
    have hlast : ((index : Int) == (count : Int) - 1) = (index + 1 == count) := by
      rw [Bool.eq_iff_iff, beq_iff_eq, beq_iff_eq]
      omega
    refine ⟨hdeclared, rfl, rfl, ?_, ?_, rfl⟩
    all_goals
      simp only [Site.inPredicate, Site.isLast, Position.of, hlast]
      generalize (index + 1 == count) = isLast
      cases inPredicate <;> cases isLast <;> rfl
  · exact absurd h (by simp)

end Frame

/-- A composed method is a walk from an empty trail, and its last statement decides its type. -/
theorem compose_threaded {frame : Frame} {ss : List Statement} {c : Composition}
    (h : compose frame ss = .ok c) :
    ∃ last b, Threaded (frame.MethodStep ss.length) 0 {} ss c.statements last ∧
      c.statements.getLast? = some b ∧ frame.returnType b = .ok c.returnType ∧
      last.parameters = c.parameters := by
  simp only [compose, bind_eq_ok] at h
  obtain ⟨⟨bs, ps⟩, hseq, h⟩ := h
  obtain ⟨last, hwalk, rfl⟩ := Frame.composeSequence_threaded hseq
  simp only at h
  split at h
  · exact absurd h (by simp)
  · rename_i b hb
    obtain ⟨t, ht, he⟩ := bind_eq_ok.mp h
    obtain rfl := pure_eq_ok.mp he
    exact ⟨last, b, hwalk, hb, ht, rfl⟩

end PageObjects
