import PageObjects.Proofs.Compose.Emission

/-!
# Appended statements

A method is composed from its first statement to its last, and a statement looks ahead at two things only:
whether it is the last one, and whether the next one chains on it. So statements that are appended to a
sequence which is not at its end leave alone what it becomes, and how it fails. What it looks ahead at is
said in steps 1 and 5 of the Compose Method Builder (specification, 4.2).

* `Frame.stepAt`, `Frame.Fails`: one step of a method as it is taken, and a walk that stops at one.
* `compose_eq_error`: a method that is not composed stops at one of its statements, or does so for the type
  that it declares, or has no statements.
* `Frame.stepAt_appended`: what a step sees of the statements after it.
* **`compose_appended`**: two continuations of one sequence share what it becomes, and its failures.
-/

namespace PageObjects

namespace Frame

variable {frame : Frame} {count count' index : Nat} {trail : Trail} {ss ts ts' : List Statement}

/-- One step of a method of `count` statements: what the statement at an index becomes, in front of the
`rest`. -/
def stepAt (frame : Frame) (count index : Nat) (trail : Trail) (s : Statement)
    (rest : List Statement) : Except ComposeError (Built Expression × Trail) := do
  let site ← frame.siteOf false count index trail.previous s
  frame.composeStatement site trail s (chainsNext rest)

theorem stepAt_eq_ok {s : Statement} {rest : List Statement} {b : Built Expression} {after : Trail} :
    frame.stepAt count index trail s rest = .ok (b, after) ↔
      frame.MethodStep count index trail s rest b after :=
  bind_eq_ok

/-- A walk over the statements of a method from an index on that stops at index `i`: the statements in
front of it take their steps, and it is refused. -/
inductive Fails (frame : Frame) (count : Nat) : Nat → Trail → List Statement → Nat → ComposeError → Prop
  | here {index : Nat} {trail : Trail} {s : Statement} {rest : List Statement} {e : ComposeError}
      (hstep : frame.stepAt count index trail s rest = .error e) :
      Fails frame count index trail (s :: rest) index e
  | later {index i : Nat} {before after : Trail} {s : Statement} {rest : List Statement}
      {b : Built Expression} {e : ComposeError}
      (hstep : frame.MethodStep count index before s rest b after)
      (hrest : Fails frame count (index + 1) after rest i e) :
      Fails frame count index before (s :: rest) i e

theorem Fails.lt {i : Nat} {e : ComposeError} (h : frame.Fails count index trail ss i e) :
    index ≤ i ∧ i < index + ss.length := by
  induction h with
  | here hstep => simp
  | later hstep hrest ih => rw [List.length_cons]; omega

theorem composeSequence_cons {s : Statement} {rest : List Statement} :
    frame.composeSequence count index trail (s :: rest) =
      frame.stepAt count index trail s rest >>= fun stepped =>
        (frame.composeSequence count (index + 1) stepped.2 rest).map fun others =>
          (stepped.1 :: others.1, others.2) := by
  unfold stepAt
  rw [composeSequence, bind_assoc]
  refine congrArg _ (funext fun site => congrArg _ (funext fun stepped => ?_))
  exact bind_pure_eq_map

/-- A walk that stops has come to the statement that is refused. -/
theorem fails_iff {i : Nat} {e : ComposeError} : frame.Fails count index trail ss i e ↔
    ∃ found s rest, Arrives (frame.MethodStep count) index trail ss i found s rest ∧
      frame.stepAt count i found s rest = .error e := by
  constructor
  · intro h
    induction h with
    | here hstep => exact ⟨_, _, _, .here, hstep⟩
    | later hstep hrest ih =>
      obtain ⟨found, s, rest, harrives, herror⟩ := ih
      exact ⟨found, s, rest, .later hstep harrives, herror⟩
  · rintro ⟨found, s, rest, harrives, herror⟩
    induction harrives with
    | here => exact .here herror
    | later hstep hrest ih => exact .later hstep (ih herror)

/-- **A sequence is not composed exactly when it stops at one of its statements**, and then for the error
of that statement. -/
theorem composeSequence_eq_error {e : ComposeError} :
    frame.composeSequence count index trail ss = .error e ↔ ∃ i, frame.Fails count index trail ss i e := by
  simp only [fails_iff]
  exact walk_eq_error (frame.stepAt count) (fun _ _ => rfl) (fun _ _ _ _ => composeSequence_cons)
    (fun _ _ _ _ _ _ => stepAt_eq_ok)

/-- **A step sees little of the statements after it**: that there are any, and whether the next one
chains. -/
theorem stepAt_appended {s : Statement} {rest : List Statement} (hcount : index + rest.length + 1 < count)
    (hcount' : index + rest.length + 1 < count') (hnext : chainsNext ts = chainsNext ts') :
    frame.stepAt count index trail s (rest ++ ts) = frame.stepAt count' index trail s (rest ++ ts') := by
  have hposition : Position.of index count false = Position.of index count' false := by
    have hlast : ((index : Int) == (count : Int) - 1) = false := beq_eq_false_iff_ne.mpr (by omega)
    have hlast' : ((index : Int) == (count' : Int) - 1) = false := beq_eq_false_iff_ne.mpr (by omega)
    simp only [Position.of, hlast, hlast']
  have hsite : frame.siteOf false count index trail.previous s =
      frame.siteOf false count' index trail.previous s := by
    simp only [siteOf, hposition]
  have hchains : chainsNext (rest ++ ts) = chainsNext (rest ++ ts') := by
    cases rest with
    | nil => exact hnext
    | cons s' rest => rfl
  simp only [stepAt, hsite, hchains]

/-- A walk that stops at a statement stops there with other statements appended. -/
theorem Fails.appended (hnext : chainsNext ts = chainsNext ts') {i : Nat} {e : ComposeError} :
    ∀ {ss : List Statement} {index : Nat} {trail : Trail}, index + ss.length < count →
      index + ss.length < count' → i < index + ss.length →
      frame.Fails count index trail (ss ++ ts) i e → frame.Fails count' index trail (ss ++ ts') i e
  | [], index, trail, _, _, hi, h => by
    have hle := h.lt.1
    simp at hi
    omega
  | s :: rest, index, trail, hcount, hcount', hi, h => by
    rw [List.length_cons] at hcount hcount' hi
    have hstep : frame.stepAt count index trail s (rest ++ ts) =
        frame.stepAt count' index trail s (rest ++ ts') :=
      stepAt_appended (by omega) (by omega) hnext
    cases h with
    | here herror => exact .here (hstep.symm.trans herror)
    | later hok hrest =>
      refine .later (stepAt_eq_ok.mp (hstep.symm.trans (stepAt_eq_ok.mpr hok))) ?_
      exact Fails.appended hnext (by omega) (by omega) (by omega) hrest

/-- Two walks over one sequence with different statements appended build the same for it. -/
theorem walks_appended (hnext : chainsNext ts = chainsNext ts') :
    ∀ {ss : List Statement} {index : Nat} {trail last last' : Trail} {bs bs' : List (Built Expression)},
      index + ss.length < count → index + ss.length < count' →
      Threaded (frame.MethodStep count) index trail (ss ++ ts) bs last →
      Threaded (frame.MethodStep count') index trail (ss ++ ts') bs' last' →
      ∃ built, built.length = ss.length ∧ built <+: bs ∧ built <+: bs'
  | [], _, _, _, _, _, _, _, _, _, _ => ⟨[], rfl, List.nil_prefix, List.nil_prefix⟩
  | s :: rest, index, trail, last, last', bs, bs', hcount, hcount', h, h' => by
    rw [List.length_cons] at hcount hcount'
    cases h with
    | @cons _ _ after _ _ _ b others hstep hrest =>
      cases h' with
      | @cons _ _ after' _ _ _ b' others' hstep' hrest' =>
        have hsame : frame.stepAt count index trail s (rest ++ ts) =
            frame.stepAt count' index trail s (rest ++ ts') :=
          stepAt_appended (by omega) (by omega) hnext
        obtain ⟨rfl, rfl⟩ := Prod.mk.inj (Except.ok.inj
          ((stepAt_eq_ok.mpr hstep).symm.trans (hsame.trans (stepAt_eq_ok.mpr hstep'))))
        obtain ⟨built, hlength, hprefix, hprefix'⟩ :=
          walks_appended hnext (by omega) (by omega) hrest hrest'
        exact ⟨b :: built, by simp [hlength], List.prefix_cons_inj b |>.mpr hprefix,
          List.prefix_cons_inj b |>.mpr hprefix'⟩

/-- Composing a method fails at the statement with index `i`: those in front of it are composed, and it is
refused, at its own or in its predicate. -/
def FailsAt (frame : Frame) (ss : List Statement) (i : Nat) (e : ComposeError) : Prop :=
  frame.Fails ss.length 0 {} ss i e

end Frame

/-- **How a method fails**: at one of its statements, or, when all of them are composed, for having none or
for the type that it declares. -/
theorem compose_eq_error {frame : Frame} {ss : List Statement} {e : ComposeError} :
    compose frame ss = .error e ↔ (∃ i, frame.FailsAt ss i e) ∨
      ∃ bs ps, frame.composeSequence ss.length 0 {} ss = .ok (bs, ps) ∧
        ((bs = [] ∧ e = .empty frame.method) ∨
          ∃ b, bs.getLast? = some b ∧ frame.returnType b = .error e) := by
  unfold compose Frame.FailsAt
  rw [← Frame.composeSequence_eq_error]
  cases frame.composeSequence ss.length 0 {} ss with
  | error e' => simp [bind, Except.bind]
  | ok built =>
    obtain ⟨bs, ps⟩ := built
    rw [ok_bind]
    dsimp only
    cases hlast : bs.getLast? with
    | none =>
      obtain rfl := List.getLast?_eq_none_iff.mp hlast
      simp [eq_comm]
    | some b =>
      have hne : bs ≠ [] := by
        rintro rfl
        exact absurd hlast (by simp)
      cases ht : frame.returnType b <;> simp [bind, Except.bind, pure, Except.pure, hne, ht, hlast]

/-- **Appended statements never change earlier code.** Let a sequence go on in two ways, with first
statements that both chain or both do not. Where both methods are composed, the sequence has become the same
in both. Where one fails at a statement of the sequence, so does the other, with the same error. -/
theorem compose_appended {frame : Frame} {ss ts ts' : List Statement} {t t' : Statement}
    (hchain : t.chain = t'.chain) :
    (∀ c c', compose frame (ss ++ t :: ts) = .ok c → compose frame (ss ++ t' :: ts') = .ok c' →
      ∃ built, built.length = ss.length ∧ built <+: c.statements ∧ built <+: c'.statements) ∧
    ∀ i < ss.length, ∀ e, frame.FailsAt (ss ++ t :: ts) i e →
      frame.FailsAt (ss ++ t' :: ts') i e ∧ compose frame (ss ++ t :: ts) = .error e ∧
        compose frame (ss ++ t' :: ts') = .error e := by
  have hnext : chainsNext (t :: ts) = chainsNext (t' :: ts') := hchain
  have hcount : 0 + ss.length < (ss ++ t :: ts).length := by simp
  have hcount' : 0 + ss.length < (ss ++ t' :: ts').length := by simp
  refine ⟨?_, ?_⟩
  · intro c c' hc hc'
    obtain ⟨last, b, hwalk, -⟩ := compose_threaded hc
    obtain ⟨last', b', hwalk', -⟩ := compose_threaded hc'
    exact Frame.walks_appended hnext hcount hcount' hwalk hwalk'
  · intro i hi e hfails
    have hfails' : frame.FailsAt (ss ++ t' :: ts') i e :=
      Frame.Fails.appended hnext hcount hcount' (by omega) hfails
    exact ⟨hfails', compose_eq_error.mpr (Or.inl ⟨i, hfails⟩),
      compose_eq_error.mpr (Or.inl ⟨i, hfails'⟩)⟩

/-- A method of a page object whose root can be clicked. -/
def onRoot : Frame :=
  { page := { name := "Page", elements := [.root ["clickable"] false] }, method := "onRoot" }

/-- A statement that calls an action on the root. -/
def callRoot (action : String) : Statement := { element := some "root", action := some action }

/-- A statement that waits for an action of the root. -/
def awaitRoot (action : String) : Statement :=
  { action := some Statement.waitAction, predicate := some [callRoot action] }

theorem onRoot_appended :
    (∃ c c' built, compose onRoot ([awaitRoot "isVisible"] ++ [callRoot "click"]) = .ok c ∧
      compose onRoot ([awaitRoot "isVisible"] ++ [callRoot "getText", callRoot "click"]) = .ok c' ∧
      built.length = 1 ∧ built <+: c.statements ∧ built <+: c'.statements) ∧
    ∃ e, onRoot.FailsAt ([awaitRoot "fly"] ++ [callRoot "click"]) 0 e ∧
      compose onRoot ([awaitRoot "fly"] ++ [callRoot "getText", callRoot "click"]) = .error e := by
  have hok : (compose onRoot ([awaitRoot "isVisible"] ++ [callRoot "click"])).toOption.any
      (fun _ => true) = true := by decide
  have hok' : (compose onRoot
      ([awaitRoot "isVisible"] ++ [callRoot "getText", callRoot "click"])).toOption.any
      (fun _ => true) = true := by decide
  obtain ⟨c, hc, -⟩ := exists_eq_ok hok
  obtain ⟨c', hc', -⟩ := exists_eq_ok hok'
  have hshared := @compose_appended onRoot [awaitRoot "isVisible"] [] [callRoot "click"]
    (callRoot "click") (callRoot "getText") rfl
  obtain ⟨built, hbuilt⟩ := hshared.1 c c' hc hc'
  have hfails : onRoot.FailsAt ([awaitRoot "fly"] ++ [callRoot "click"]) 0
      (.statement "onRoot" 0 true (.action (.unknownAction "fly" "root" ["clickable"]))) := .here rfl
  have hshared' := @compose_appended onRoot [awaitRoot "fly"] [] [callRoot "click"]
    (callRoot "click") (callRoot "getText") rfl
  obtain ⟨-, -, hfails'⟩ := hshared'.2 0 (by decide) _ hfails
  exact ⟨⟨c, c', built, hc, hc', hbuilt⟩, _, hfails, hfails'⟩

end PageObjects
