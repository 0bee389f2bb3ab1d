/-!
# Outcomes of computations that may fail

A sequence of steps succeeds exactly when each step does. The lemmas take such a sequence apart, so
that proofs about checks and readers need not open the monad. What a sequence fails with is what one
of its steps fails with.

## Main definitions

* `FailsOnly` — whenever a computation fails, its failure has a property.
* `Follows` — a computation succeeds exactly if another does, with what comes of its result.
* `Corresponds` — two computations fail alike, or succeed with results that go together.
-/

namespace Airlight

variable {ε α β : Type}

@[simp] theorem ok_bind (a : α) (f : α → Except ε β) : (Except.ok a >>= f) = f a := rfl

@[simp] theorem error_bind (e : ε) (f : α → Except ε β) : (Except.error e >>= f) = .error e := rfl

@[simp] theorem pure_eq_ok (a : α) : (pure a : Except ε α) = .ok a := rfl

@[simp] theorem throw_eq_error (e : ε) : (throw e : Except ε α) = .error e := rfl

theorem bind_eq_ok_iff {x : Except ε α} {f : α → Except ε β} {b : β} :
    x >>= f = .ok b ↔ ∃ a, x = .ok a ∧ f a = .ok b := by
  cases x <;> simp

theorem map_eq_ok_iff {x : Except ε α} {f : α → β} {b : β} :
    f <$> x = .ok b ↔ ∃ a, x = .ok a ∧ f a = b := by
  cases x <;> simp [Functor.map, Except.map]

/-- A step that succeeds for every element of a list succeeds for the list. -/
theorem listMapM_eq_ok {xs : List α} {f : α → Except ε β} {g : α → β}
    (h : ∀ x ∈ xs, f x = .ok (g x)) : xs.mapM f = .ok (xs.map g) := by
  induction xs with
  | nil => rfl
  | cons x xs ih =>
    obtain ⟨hx, hxs⟩ := List.forall_mem_cons.mp h
    simp [List.mapM_cons, hx, ih hxs]

theorem eq_ok_of_listMapM {xs : List α} {f : α → Except ε β} {g : α → β}
    (h : xs.mapM f = .ok (xs.map g)) : ∀ x ∈ xs, f x = .ok (g x) := by
  induction xs with
  | nil => exact fun x hx => nomatch hx
  | cons x xs ih =>
    rw [List.mapM_cons] at h
    obtain ⟨y, hy, h⟩ := bind_eq_ok_iff.mp h
    obtain ⟨rest, hrest, h⟩ := bind_eq_ok_iff.mp h
    obtain ⟨rfl, rfl⟩ := List.cons.inj (Except.ok.inj h)
    exact List.forall_mem_cons.mpr ⟨hy, ih hrest⟩

theorem exists_listMapM_eq_ok {xs : List α} {f : α → Except ε β}
    (h : ∀ x ∈ xs, ∃ y, f x = .ok y) : ∃ ys, xs.mapM f = .ok ys := by
  induction xs with
  | nil => exact ⟨[], rfl⟩
  | cons x xs ih =>
    obtain ⟨⟨y, hy⟩, hxs⟩ := List.forall_mem_cons.mp h
    obtain ⟨ys, hys⟩ := ih hxs
    exact ⟨y :: ys, by simp [List.mapM_cons, hy, hys]⟩

theorem listMapM_isSome {xs : List α} {f : α → Option β} (h : ∀ x ∈ xs, (f x).isSome = true) :
    (xs.mapM f).isSome = true := by
  induction xs with
  | nil => rfl
  | cons x xs ih =>
    obtain ⟨hx, hxs⟩ := List.forall_mem_cons.mp h
    obtain ⟨y, hy⟩ := Option.isSome_iff_exists.mp hx
    obtain ⟨ys, hys⟩ := Option.isSome_iff_exists.mp (ih hxs)
    simp [List.mapM_cons, hy, hys]

theorem exists_of_listMapM_eq_some {xs : List α} {f : α → Option β} {ys : List β}
    (h : xs.mapM f = some ys) : ∀ x ∈ xs, ∃ y, f x = some y := by
  induction xs generalizing ys with
  | nil => exact fun x hx => nomatch hx
  | cons x xs ih =>
    rw [List.mapM_cons] at h
    obtain ⟨y, hy, h⟩ := Option.bind_eq_some_iff.mp h
    obtain ⟨rest, hrest, -⟩ := Option.bind_eq_some_iff.mp h
    exact List.forall_mem_cons.mpr ⟨⟨y, hy⟩, ih hrest⟩

theorem exists_of_mem_listMapM {xs : List α} {f : α → Except ε β} {ys : List β}
    (h : xs.mapM f = .ok ys) {y : β} (hy : y ∈ ys) : ∃ x ∈ xs, f x = .ok y := by
  induction xs generalizing ys with
  | nil =>
    cases h
    exact nomatch hy
  | cons x xs ih =>
    rw [List.mapM_cons] at h
    obtain ⟨first, hfirst, h⟩ := bind_eq_ok_iff.mp h
    obtain ⟨rest, hrest, h⟩ := bind_eq_ok_iff.mp h
    cases h
    obtain rfl | hy := List.mem_cons.mp hy
    · exact ⟨x, List.mem_cons_self, hfirst⟩
    · obtain ⟨own, hown, hread⟩ := ih hrest hy
      exact ⟨own, List.mem_cons_of_mem x hown, hread⟩

theorem length_of_listMapM {xs : List α} {f : α → Except ε β} {ys : List β}
    (h : xs.mapM f = .ok ys) : ys.length = xs.length := by
  induction xs generalizing ys with
  | nil =>
    cases h
    rfl
  | cons x xs ih =>
    rw [List.mapM_cons] at h
    obtain ⟨y, -, h⟩ := bind_eq_ok_iff.mp h
    obtain ⟨rest, hrest, h⟩ := bind_eq_ok_iff.mp h
    cases h
    rw [List.length_cons, ih hrest, List.length_cons]

/-! ## Failures -/

/-- Whenever a computation fails, its failure has a property. -/
def FailsOnly (P : ε → Prop) (r : Except ε α) : Prop := ∀ e, r = .error e → P e

section

variable {P Q : ε → Prop}

theorem failsOnly_error {e : ε} (h : P e) : FailsOnly P (.error e : Except ε α) := by
  intro e' he
  cases he
  exact h

theorem FailsOnly.mono {r : Except ε α} (h : FailsOnly P r) (himp : ∀ e, P e → Q e) :
    FailsOnly Q r := fun e he => himp e (h e he)

theorem FailsOnly.bind {x : Except ε α} {f : α → Except ε β} (hx : FailsOnly P x)
    (hf : ∀ a, x = .ok a → FailsOnly P (f a)) : FailsOnly P (x >>= f) := by
  cases x with
  | error e => exact failsOnly_error (hx e rfl)
  | ok a => exact hf a rfl

end

/-! ## Computations that follow another -/

/-- A computation succeeds exactly if another one does, with what `g` makes of its result. -/
def Follows (r' : Except ε β) (g : α → β) (r : Except ε α) : Prop :=
  (∀ a, r = .ok a → r' = .ok (g a)) ∧ ∀ b, r' = .ok b → ∃ a, r = .ok a

section

variable {g : α → β} {r : Except ε α} {r' : Except ε β}

theorem follows_self (r : Except ε α) : Follows r id r := ⟨fun _ h => h, fun a h => ⟨a, h⟩⟩

theorem follows_of_ok {a : α} (h : r = .ok a) (h' : r' = .ok (g a)) : Follows r' g r := by
  refine ⟨fun b hb => ?_, fun _ _ => ⟨a, h⟩⟩
  cases h.symm.trans hb
  exact h'

theorem follows_of_error {e e' : ε} (h : r = .error e) (h' : r' = .error e') : Follows r' g r :=
  ⟨fun _ ha => (nomatch h.symm.trans ha), fun _ hb => (nomatch h'.symm.trans hb)⟩

/-- What is done for each element of a list follows if each step does. -/
theorem Follows.listMapM {γ δ : Type} {xs : List γ} {f : γ → Except ε α} {f' : δ → Except ε β}
    {k : γ → δ} (h : ∀ x ∈ xs, Follows (f' (k x)) g (f x)) :
    Follows ((xs.map k).mapM f') (List.map g) (xs.mapM f) := by
  induction xs with
  | nil => exact follows_of_ok rfl rfl
  | cons x xs ih =>
    obtain ⟨hx, hxs⟩ := List.forall_mem_cons.mp h
    rw [List.map_cons, List.mapM_cons, List.mapM_cons]
    constructor
    · intro as h
      obtain ⟨a, ha, h⟩ := bind_eq_ok_iff.mp h
      obtain ⟨rest, hrest, h⟩ := bind_eq_ok_iff.mp h
      cases h
      rw [hx.1 a ha, ok_bind, (ih hxs).1 rest hrest]
      rfl
    · intro bs h
      obtain ⟨b, hb, h⟩ := bind_eq_ok_iff.mp h
      obtain ⟨rest, hrest, -⟩ := bind_eq_ok_iff.mp h
      obtain ⟨a, ha⟩ := hx.2 b hb
      obtain ⟨as, has⟩ := (ih hxs).2 rest hrest
      exact ⟨a :: as, by rw [ha, ok_bind, has]; rfl⟩

end

/-! ## Computations side by side -/

/-- Two computations fail with the same failure, or both succeed with results that are related. -/
inductive Corresponds (R : α → β → Prop) : Except ε α → Except ε β → Prop
  | ok {a : α} {b : β} (h : R a b) : Corresponds R (.ok a) (.ok b)
  | error (e : ε) : Corresponds R (.error e) (.error e)

section

variable {γ δ : Type} {R : α → β → Prop} {S : γ → δ → Prop}

theorem Corresponds.mono {R' : α → β → Prop} {x : Except ε α} {y : Except ε β}
    (h : Corresponds R x y) (himp : ∀ a b, R a b → R' a b) : Corresponds R' x y := by
  cases h with
  | ok hab => exact .ok (himp _ _ hab)
  | error e => exact .error e

theorem corresponds_self {R : α → α → Prop} (h : ∀ a, R a a) (x : Except ε α) :
    Corresponds R x x := by
  cases x with
  | error e => exact .error e
  | ok a => exact .ok (h a)

theorem Corresponds.map {x : Except ε α} {y : Except ε β} {f : α → γ} {g : β → δ}
    (h : Corresponds R x y) (himp : ∀ a b, R a b → S (f a) (g b)) :
    Corresponds S (x.map f) (y.map g) := by
  cases h with
  | ok hab => exact .ok (himp _ _ hab)
  | error e => exact .error e

/-- Computations with results that become equal are those that become equal. -/
theorem corresponds_iff_map_eq {f : α → γ} {g : β → γ} {x : Except ε α} {y : Except ε β} :
    Corresponds (fun a b => f a = g b) x y ↔ x.map f = y.map g := by
  constructor
  · intro h
    cases h with
    | ok hab => exact congrArg Except.ok hab
    | error e => rfl
  · intro h
    cases x with
    | error e =>
      cases y with
      | error e' => exact Except.error.inj h ▸ .error e
      | ok b => cases h
    | ok a =>
      cases y with
      | error e' => cases h
      | ok b => exact .ok (Except.ok.inj h)

end

end Airlight
