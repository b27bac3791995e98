/-!
# Computations that succeed

A computation that may fail succeeds when each of its steps does, and fails with the error of one. These
equivalences take a computation apart, one step at a time. `Faults` speaks of the computations that fail: every
error of a sequence of steps is one of a step. `Persists` compares two computations: what the first one
results in, the second one does, too.
-/

namespace PageObjects

theorem bind_eq_ok {first : Except ε α} {next : α → Except ε β} {b : β} :
    (first >>= next) = .ok b ↔ ∃ a, first = .ok a ∧ next a = .ok b := by
  cases first with
  | error e => simp [bind, Except.bind]
  | ok a => simp [bind, Except.bind]

theorem map_eq_ok {x : Except ε α} {f : α → β} {b : β} :
    x.map f = .ok b ↔ ∃ a, x = .ok a ∧ f a = b := by
  cases x with
  | error e => simp [Except.map]
  | ok a => simp [Except.map]

theorem bind_eq_error {first : Except ε α} {next : α → Except ε β} {e : ε} :
    first.bind next = .error e ↔ first = .error e ∨ ∃ a, first = .ok a ∧ next a = .error e := by
  cases first with
  | error e' => simp [Except.bind]
  | ok a => simp [Except.bind]

theorem map_eq_error {x : Except ε α} {f : α → β} {e : ε} : x.map f = .error e ↔ x = .error e := by
  cases x with
  | error e' => simp [Except.map]
  | ok a => simp [Except.map]

theorem mapError_eq_ok {x : Except ε α} {f : ε → ε'} {a : α} : x.mapError f = .ok a ↔ x = .ok a := by
  cases x with
  | error e =>
    have h : (Except.error e : Except ε α).mapError f = .error (f e) := rfl
    simp [h]
  | ok b =>
    have h : (Except.ok b : Except ε α).mapError f = .ok b := rfl
    simp [h]

theorem pure_eq_ok {a b : α} : (pure a : Except ε α) = .ok b ↔ a = b := by
  simp [pure, Except.pure]

theorem ok_bind {a : α} {next : α → Except ε β} : (Except.ok a >>= next) = next a := rfl

theorem bind_pure_eq_map {x : Except ε α} {f : α → β} : (x >>= fun a => pure (f a)) = x.map f := by
  cases x <;> rfl

/-- A computation that is seen to have a result with a property has one. -/
theorem exists_eq_ok {x : Except ε α} {p : α → Bool} (h : x.toOption.any p = true) :
    ∃ a, x = .ok a ∧ p a = true := by
  cases x with
  | error e => exact absurd h Bool.false_ne_true
  | ok a => exact ⟨a, rfl, h⟩

/-- A computation that goes on in the same way after both branches goes on after the branch. -/
theorem ite_bind {c : Prop} [Decidable c] {x y : Except ε α} {f : α → Except ε β} :
    (if c then x >>= f else y >>= f) = ((if c then x else y) >>= f) := by
  split <;> rfl

/-- Computations that all succeed do so together. -/
theorem mapM_eq_ok {f : α → Except ε β} {g : α → β} : ∀ {xs : List α},
    (∀ x ∈ xs, f x = .ok (g x)) → xs.mapM f = .ok (xs.map g)
  | [], _ => rfl
  | x :: xs, h => by
    rw [List.forall_mem_cons] at h
    rw [List.mapM_cons, h.1, mapM_eq_ok h.2]
    rfl

/-- Every result of a list of computations is one of theirs. -/
theorem exists_of_mem_mapM {f : α → Except ε β} : ∀ {xs : List α} {ys : List β},
    xs.mapM f = .ok ys → ∀ y ∈ ys, ∃ x ∈ xs, f x = .ok y
  | [], ys, h, y, hy => by
    obtain rfl := pure_eq_ok.mp h
    exact absurd hy (by simp)
  | x :: xs, ys, h, y, hy => by
    simp only [List.mapM_cons, bind_eq_ok] at h
    obtain ⟨first, hfirst, rest, hrest, h⟩ := h
    obtain rfl := pure_eq_ok.mp h
    rcases List.mem_cons.mp hy with rfl | hy
    · exact ⟨x, by simp, hfirst⟩
    · obtain ⟨x', hx', hy⟩ := exists_of_mem_mapM hrest y hy
      exact ⟨x', List.mem_cons_of_mem x hx', hy⟩

/-- A list of computations fails at its first that does. -/
theorem mapM_eq_error {f : α → Except ε β} {e : ε} : ∀ {xs : List α}, xs.mapM f = .error e ↔
    ∃ front x back, xs = front ++ x :: back ∧ (∀ y ∈ front, ∃ b, f y = .ok b) ∧ f x = .error e
  | [] => by simp [pure, Except.pure]
  | x :: xs => by
    rw [List.mapM_cons]
    cases hx : f x with
    | error e' =>
      constructor
      · intro h
        obtain rfl : e' = e := Except.error.inj h
        exact ⟨[], x, xs, rfl, by simp, hx⟩
      · rintro ⟨front, y, back, hxs, hfront, hy⟩
        cases front with
        | nil =>
          obtain ⟨rfl, rfl⟩ := List.cons.inj hxs
          obtain rfl : e' = e := Except.error.inj (hx.symm.trans hy)
          rfl
        | cons x' front =>
          obtain ⟨rfl, rfl⟩ := List.cons.inj hxs
          obtain ⟨b, hb⟩ := hfront x (by simp)
          exact absurd (hx.symm.trans hb) (by simp)
    | ok b =>
      have hrest : (xs.mapM f >>= fun bs => pure (b :: bs)) = .error e ↔ xs.mapM f = .error e := by
        cases xs.mapM f <;> simp [bind, Except.bind, pure, Except.pure]
      rw [ok_bind, hrest, mapM_eq_error]
      constructor
      · rintro ⟨front, y, back, rfl, hfront, hy⟩
        exact ⟨x :: front, y, back, rfl, List.forall_mem_cons.mpr ⟨⟨b, hx⟩, hfront⟩, hy⟩
      · rintro ⟨front, y, back, hxs, hfront, hy⟩
        cases front with
        | nil =>
          obtain ⟨rfl, rfl⟩ := List.cons.inj hxs
          exact absurd (hx.symm.trans hy) (by simp)
        | cons x' front =>
          obtain ⟨rfl, rfl⟩ := List.cons.inj hxs
          exact ⟨front, y, back, rfl, fun z hz => hfront z (List.mem_cons_of_mem _ hz), hy⟩

theorem mapM_isOk {f : α → Except ε β} {xs : List α} :
    (∃ ys, xs.mapM f = .ok ys) ↔ ∀ x ∈ xs, ∃ y, f x = .ok y := by
  induction xs with
  | nil => simp [pure, Except.pure]
  | cons x xs ih =>
    rw [List.forall_mem_cons, ← ih]
    simp only [List.mapM_cons, bind_eq_ok, pure_eq_ok]
    constructor
    · rintro ⟨_, y, hy, ys, hys, -⟩
      exact ⟨⟨y, hy⟩, ys, hys⟩
    · rintro ⟨⟨y, hy⟩, ys, hys⟩
      exact ⟨_, y, hy, ys, hys, rfl⟩

/-- What is read off the results of a list of computations is read off the items. -/
theorem map_of_mapM {f : α → Except ε β} {g : β → γ} {g' : α → γ}
    (hf : ∀ x y, f x = .ok y → g y = g' x) : ∀ {xs : List α} {ys : List β},
    xs.mapM f = .ok ys → ys.map g = xs.map g'
  | [], ys, h => by
    obtain rfl := pure_eq_ok.mp h
    rfl
  | x :: xs, ys, h => by
    simp only [List.mapM_cons, bind_eq_ok] at h
    obtain ⟨first, hfirst, rest, hrest, h⟩ := h
    obtain rfl := pure_eq_ok.mp h
    rw [List.map_cons, List.map_cons, hf x first hfirst, map_of_mapM hf hrest]

theorem flatten_mapM_cons {f : α → Except ε (List β)} (x : α) (xs : List α) :
    ((x :: xs).mapM f).map List.flatten =
      (f x).bind fun ys => ((xs.mapM f).map List.flatten).map (ys ++ ·) := by
  rw [List.mapM_cons]
  cases f x with
  | error e => rfl
  | ok ys => cases xs.mapM f <;> rfl

/-- Computations that keep some of their results, over the items that still have any, keep the same of
all results together. -/
theorem flatten_mapM_filter {f g : α → Except ε (List β)} {live : α → Bool} {keep : β → Bool} :
    ∀ {xs : List α}, (∀ x ∈ xs, live x → g x = (f x).map (List.filter keep)) →
      (∀ x ∈ xs, ¬ live x → ∃ ys, f x = .ok ys ∧ ys.filter keep = []) →
      ((xs.filter live).mapM g).map List.flatten =
        ((xs.mapM f).map List.flatten).map (List.filter keep)
  | [], _, _ => rfl
  | x :: xs, hlive, hdead => by
    rw [List.forall_mem_cons] at hlive hdead
    have ih := flatten_mapM_filter hlive.2 hdead.2
    rw [flatten_mapM_cons]
    generalize (xs.mapM f).map List.flatten = rest at ih ⊢
    by_cases hx : live x
    · rw [List.filter_cons_of_pos hx, flatten_mapM_cons, hlive.1 hx, ih]
      cases f x with
      | error e => rfl
      | ok ys => cases rest <;> simp [Except.map, Except.bind]
    · obtain ⟨ys, hys, hnone⟩ := hdead.1 hx
      rw [List.filter_cons_of_neg hx, ih, hys]
      cases rest <;> simp [Except.map, Except.bind, hnone]

/-! ## Errors -/

/-- Every error of the computation is one of `P`. -/
def Faults (P : ε → Prop) (x : Except ε α) : Prop := ∀ e, x = .error e → P e

variable {P : ε → Prop}

theorem Faults.ok {a : α} : Faults P (.ok a : Except ε α) := by
  intro e h
  exact absurd h (by simp)

theorem Faults.error {e : ε} (he : P e) : Faults P (.error e : Except ε α) := by
  intro e' h
  exact Except.error.inj h ▸ he

theorem Faults.bind {first : Except ε α} {next : α → Except ε β} (hfirst : Faults P first)
    (hnext : ∀ a, first = .ok a → Faults P (next a)) : Faults P (first >>= next) := by
  intro e h
  cases first with
  | error e' =>
    obtain rfl : e' = e := Except.error.inj h
    exact hfirst e' rfl
  | ok a => exact hnext a rfl e h

theorem Faults.map {x : Except ε α} {f : α → β} (hx : Faults P x) : Faults P (x.map f) := by
  intro e h
  cases x with
  | error e' =>
    obtain rfl : e' = e := Except.error.inj h
    exact hx e' rfl
  | ok a => exact absurd h (by simp [Except.map])

theorem Faults.mapM {f : α → Except ε β} : ∀ {xs : List α}, (∀ x ∈ xs, Faults P (f x)) →
    Faults P (xs.mapM f)
  | [], _ => by
    rw [List.mapM_nil]
    exact Faults.ok
  | x :: xs, h => by
    rw [List.forall_mem_cons] at h
    rw [List.mapM_cons]
    exact h.1.bind fun first _ => (Faults.mapM h.2).bind fun rest _ => Faults.ok

/-! ## Two computations -/

/-- A result of the first computation is one of the second. -/
def Persists (x y : Except ε α) : Prop := ∀ a, x = .ok a → y = .ok a

namespace Persists

variable {x y : Except ε α}

theorem refl (x : Except ε α) : Persists x x := fun _ h => h

theorem of_eq (h : y = x) : Persists x y := fun _ hx => h.trans hx

theorem error {e : ε} : Persists (.error e) y := by
  intro a h
  exact absurd h (by simp)

theorem bind {next next' : α → Except ε β} (hfirst : Persists x y)
    (hnext : ∀ a, Persists (next a) (next' a)) : Persists (x >>= next) (y >>= next') := by
  intro b h
  obtain ⟨a, ha, hb⟩ := bind_eq_ok.mp h
  exact bind_eq_ok.mpr ⟨a, hfirst a ha, hnext a b hb⟩

theorem map {f : α → β} (h : Persists x y) : Persists (x.map f) (y.map f) := by
  intro b hb
  obtain ⟨a, ha, hab⟩ := map_eq_ok.mp hb
  exact map_eq_ok.mpr ⟨a, h a ha, hab⟩

theorem mapM {f g : α → Except ε β} : ∀ {xs : List α}, (∀ x ∈ xs, Persists (f x) (g x)) →
    Persists (xs.mapM f) (xs.mapM g)
  | [], _ => refl _
  | x :: xs, h => by
    rw [List.forall_mem_cons] at h
    rw [List.mapM_cons, List.mapM_cons]
    exact h.1.bind fun first => (mapM h.2).bind fun rest => refl _

end Persists

end PageObjects
