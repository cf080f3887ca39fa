/-
# Outcomes of steps

How a chain of steps came to its outcome: each step before the last one had a
value (`bind_eq_ok`), and the first step without one decides the fault
(`bind_eq_error`). With `Logged.result_bind` the same opens logged steps. What every fault
and every value of a chain is like follows from its steps one by one (`Meets.bind`).
-/

import Mathlib
import SuiteForge.Log

namespace SuiteForge

variable {ε δ α β : Type}

@[simp] theorem ok_bind (a : α) (f : α → Except ε β) : (.ok a >>= f) = f a := rfl

@[simp] theorem error_bind (e : ε) (f : α → Except ε β) : (.error e >>= f) = .error e := rfl

theorem bind_eq_ok {x : Except ε α} {f : α → Except ε β} {b : β} :
    (x >>= f) = .ok b ↔ ∃ a, x = .ok a ∧ f a = .ok b := by
  cases x <;> simp [bind, Except.bind]

theorem bind_eq_error {x : Except ε α} {f : α → Except ε β} {e : ε} :
    (x >>= f) = .error e ↔ x = .error e ∨ ∃ a, x = .ok a ∧ f a = .error e := by
  cases x <;> simp [bind, Except.bind]

theorem map_eq_ok {x : Except ε α} {f : α → β} {b : β} :
    x.map f = .ok b ↔ ∃ a, x = .ok a ∧ f a = b := by
  cases x <;> simp [Except.map]

theorem map_eq_error {x : Except ε α} {f : α → β} {e : ε} :
    x.map f = .error e ↔ x = .error e := by
  cases x <;> simp [Except.map]

theorem mapError_eq_ok {x : Except ε α} {f : ε → δ} {a : α} :
    x.mapError f = .ok a ↔ x = .ok a := by
  cases x <;> simp [Except.mapError]

theorem mapError_eq_error {x : Except ε α} {f : ε → δ} {e : δ} :
    x.mapError f = .error e ↔ ∃ e', x = .error e' ∧ f e' = e := by
  cases x <;> simp [Except.mapError]

/-- Steps for the items of a list all have a value if they have one each. -/
theorem mapM_eq_ok {f : α → Except ε β} {xs : List α} {ys : List β} :
    xs.mapM f = .ok ys ↔ List.Forall₂ (fun x y => f x = .ok y) xs ys := by
  induction xs generalizing ys with
  | nil => simp [pure, Except.pure, eq_comm]
  | cons x xs ih =>
    simp only [List.mapM_cons, bind_eq_ok, ih, List.forall₂_cons_left_iff]
    constructor
    · rintro ⟨y, hy, ys, hys, h⟩
      exact ⟨y, ys, hy, hys, (Except.ok.inj h).symm⟩
    · rintro ⟨y, ys, hy, hys, rfl⟩
      exact ⟨y, hy, ys, hys, rfl⟩

/-! ## Items that go together one by one -/

section Forall₂

variable {R : α → β → Prop} {xs : List α} {ys : List β}

theorem exists_right_of_forall₂ (h : List.Forall₂ R xs ys) {x : α} (hx : x ∈ xs) :
    ∃ y ∈ ys, R x y := by
  induction h with
  | nil => cases hx
  | cons hhere _ ih =>
    rcases List.mem_cons.1 hx with rfl | hx
    · exact ⟨_, List.mem_cons_self, hhere⟩
    · obtain ⟨y, hy, hrel⟩ := ih hx
      exact ⟨y, List.mem_cons_of_mem _ hy, hrel⟩

theorem exists_left_of_forall₂ (h : List.Forall₂ R xs ys) {y : β} (hy : y ∈ ys) :
    ∃ x ∈ xs, R x y :=
  exists_right_of_forall₂ (R := flip R) h.flip hy

/-- Keys differ if those they go together with do. -/
theorem nodup_map_of_forall₂ {γ κ : Type} {f : α → γ} {g : β → κ} {k : κ → γ}
    (h : List.Forall₂ (fun x y => f x = k (g y)) xs ys) (once : (xs.map f).Nodup) :
    (ys.map g).Nodup := by
  have hkeys : xs.map f = (ys.map g).map k := by
    rw [← List.forall₂_eq_eq_eq, List.map_map, List.forall₂_map_left_iff,
      List.forall₂_map_right_iff]
    exact h
  exact List.Nodup.of_map _ (hkeys ▸ once)

end Forall₂

/-! ## Faults of a chain -/

/-- Every fault of a step is of a certain sort. -/
def FailsOnly (P : ε → Prop) (x : Except ε α) : Prop := ∀ e, x = .error e → P e

section FailsOnly

variable {P Q : ε → Prop}

theorem failsOnly_ok (a : α) : FailsOnly P (.ok a : Except ε α) := fun _ h => by cases h

theorem failsOnly_error {e : ε} (h : P e) : FailsOnly P (.error e : Except ε α) := by
  rintro _ ⟨⟩
  exact h

theorem FailsOnly.mono {x : Except ε α} (h : FailsOnly P x) (hPQ : ∀ e, P e → Q e) :
    FailsOnly Q x :=
  fun e he => hPQ e (h e he)

theorem FailsOnly.bind {x : Except ε α} {f : α → Except ε β} (hx : FailsOnly P x)
    (hf : ∀ a, x = .ok a → FailsOnly P (f a)) : FailsOnly P (x >>= f) := by
  intro e he
  rcases bind_eq_error.1 he with he | ⟨a, ha, he⟩
  · exact hx e he
  · exact hf a ha e he

theorem FailsOnly.map {x : Except ε α} (h : FailsOnly P x) (f : α → β) :
    FailsOnly P (x.map f) :=
  fun e he => h e (map_eq_error.1 he)

theorem FailsOnly.bind_result {x : Logged ε α} {f : α → Logged ε β} (hx : FailsOnly P x.result)
    (hf : ∀ a, x.result = .ok a → FailsOnly P (f a).result) : FailsOnly P (x >>= f).result := by
  rw [Logged.result_bind]
  exact hx.bind hf

end FailsOnly

/-! ## Steps that fail just when they may -/

/-- Every fault of a step is of a certain sort, and there is one if anything is of the sort. -/
structure Fails (P : ε → Prop) (x : Except ε α) : Prop where
  only : FailsOnly P x
  some : (∃ e, P e) → ∃ e, x = .error e

section Fails

variable {P Q : ε → Prop}

theorem fails_ok {a : α} : Fails (fun _ => False) (.ok a : Except ε α) :=
  ⟨failsOnly_ok a, fun ⟨_, h⟩ => h.elim⟩

theorem fails_error {e : ε} (h : P e) : Fails P (.error e : Except ε α) :=
  ⟨failsOnly_error h, fun _ => ⟨e, rfl⟩⟩

theorem Fails.congr {x : Except ε α} (h : Fails P x) (hPQ : ∀ e, P e ↔ Q e) : Fails Q x :=
  ⟨h.only.mono fun e => (hPQ e).1, fun hQ => h.some (hQ.imp fun e => (hPQ e).2)⟩

theorem Fails.bind {x : Except ε α} {f : α → Except ε β} (hx : Fails P x)
    (hf : ∀ a, Fails Q (f a)) : Fails (fun e => P e ∨ Q e) (x >>= f) := by
  cases x with
  | error e => exact fails_error (.inl (hx.only e rfl))
  | ok a =>
    refine ⟨(hf a).only.mono fun _ => .inr, ?_⟩
    rintro ⟨e, h | h⟩
    · obtain ⟨_, he⟩ := hx.some ⟨e, h⟩
      cases he
    · exact (hf a).some ⟨e, h⟩

/-- A last step does not fail. -/
theorem Fails.last {x : Except ε α} {g : α → β} (h : Fails P x) :
    Fails P (x >>= fun a => .ok (g a)) :=
  (h.bind fun _ => fails_ok).congr fun e => iff_of_eq (or_false (P e))

theorem Fails.mapError {x : Except ε α} (h : Fails P x) (f : ε → δ) :
    Fails (fun d => ∃ e, P e ∧ f e = d) (x.mapError f) := by
  cases x with
  | ok a =>
    refine ⟨failsOnly_ok a, fun ⟨_, e, he, _⟩ => ?_⟩
    obtain ⟨_, he⟩ := h.some ⟨e, he⟩
    cases he
  | error e => exact fails_error ⟨e, h.only e rfl, rfl⟩

theorem Fails.ok_iff {x : Except ε α} (h : Fails P x) : (∃ a, x = .ok a) ↔ ∀ e, ¬ P e := by
  cases x with
  | ok a =>
    refine iff_of_true ⟨a, rfl⟩ fun e he => ?_
    obtain ⟨_, he⟩ := h.some ⟨e, he⟩
    cases he
  | error e => exact iff_of_false nofun fun hno => hno e (h.only e rfl)

end Fails

/-- Every fault of a step is of one sort, and every value of another. -/
structure Meets (P : ε → Prop) (Q : α → Prop) (x : Except ε α) : Prop where
  fails : FailsOnly P x
  gives : ∀ a, x = .ok a → Q a

section Meets

variable {P P' : ε → Prop} {Q Q' : α → Prop} {R : β → Prop}

theorem meets_ok {a : α} (h : Q a) : Meets P Q (.ok a) := by
  refine ⟨failsOnly_ok a, ?_⟩
  rintro _ ⟨⟩
  exact h

theorem meets_error {e : ε} (h : P e) : Meets P Q (.error e : Except ε α) :=
  ⟨failsOnly_error h, nofun⟩

theorem FailsOnly.meets {x : Except ε α} (h : FailsOnly P x) : Meets P (fun a => x = .ok a) x :=
  ⟨h, fun _ => id⟩

theorem Meets.mono {x : Except ε α} (h : Meets P Q x) (hP : ∀ e, P e → P' e)
    (hQ : ∀ a, Q a → Q' a) : Meets P' Q' x :=
  ⟨h.fails.mono hP, fun a ha => hQ a (h.gives a ha)⟩

theorem Meets.bind {x : Except ε α} {f : α → Except ε β} (hx : Meets P Q x)
    (hf : ∀ a, Q a → Meets P R (f a)) : Meets P R (x >>= f) := by
  refine ⟨hx.fails.bind fun a ha => (hf a (hx.gives a ha)).fails, fun b hb => ?_⟩
  obtain ⟨a, ha, hb⟩ := bind_eq_ok.1 hb
  exact (hf a (hx.gives a ha)).gives b hb

theorem Meets.mapError {P' : δ → Prop} {f : ε → δ} {x : Except ε α} (hP : ∀ e, P e → P' (f e))
    (h : Meets P Q x) : Meets P' Q (x.mapError f) := by
  refine ⟨fun e he => ?_, fun a ha => h.gives a (mapError_eq_ok.1 ha)⟩
  obtain ⟨e', he', rfl⟩ := mapError_eq_error.1 he
  exact hP e' (h.fails e' he')

theorem Meets.bind_result {x : Logged ε α} {f : α → Logged ε β} (hx : Meets P Q x.result)
    (hf : ∀ a, Q a → Meets P R (f a).result) : Meets P R (x >>= f).result := by
  rw [Logged.result_bind]
  exact hx.bind hf

end Meets

/-! ## Two chains -/

/-- Two steps come to the same: to values that are related, or both to a fault. -/
inductive Agree (R : α → β → Prop) : Except ε α → Except ε β → Prop
  | ok {a : α} {b : β} (same : R a b) : Agree R (.ok a) (.ok b)
  | error (e f : ε) : Agree R (.error e) (.error f)

namespace Agree

variable {γ : Type} {R : α → β → Prop} {x : Except ε α} {y : Except ε β}

theorem refl (x : Except ε α) : Agree Eq x x := by
  cases x with
  | ok a => exact .ok rfl
  | error e => exact .error e e

/-- Two steps of which one has a value if the other does agree if these are related. -/
theorem of_ok_iff (h : (∃ a, x = .ok a) ↔ ∃ b, y = .ok b)
    (hR : ∀ a b, x = .ok a → y = .ok b → R a b) : Agree R x y := by
  cases x with
  | ok a =>
    obtain ⟨b, rfl⟩ := h.1 ⟨a, rfl⟩
    exact .ok (hR a b rfl rfl)
  | error e =>
    cases y with
    | ok b =>
      obtain ⟨a, ha⟩ := h.2 ⟨b, rfl⟩
      cases ha
    | error f => exact .error e f

theorem ok_iff (h : Agree R x y) : (∃ a, x = .ok a) ↔ ∃ b, y = .ok b := by
  cases h with
  | ok _ => exact iff_of_true ⟨_, rfl⟩ ⟨_, rfl⟩
  | error e f => exact iff_of_false nofun nofun

theorem of_eq_ok {a : α} {b : β} (h : Agree R x y) (hx : x = .ok a) (hy : y = .ok b) : R a b := by
  subst hx hy
  cases h with
  | ok same => exact same

theorem mono {S : α → β → Prop} (h : Agree R x y) (hRS : ∀ a b, R a b → S a b) : Agree S x y := by
  cases h with
  | ok same => exact .ok (hRS _ _ same)
  | error e f => exact .error e f

theorem map {δ : Type} {S : γ → δ → Prop} {f : α → γ} {g : β → δ} (h : Agree R x y)
    (hf : ∀ a b, R a b → S (f a) (g b)) : Agree S (x.map f) (y.map g) := by
  cases h with
  | ok same => exact .ok (hf _ _ same)
  | error e f => exact .error e f

theorem mapError {f g : ε → δ} (h : Agree R x y) : Agree R (x.mapError f) (y.mapError g) := by
  cases h with
  | ok same => exact .ok same
  | error e e' => exact .error (f e) (g e')

theorem bind {δ : Type} {S : γ → δ → Prop} {f : α → Except ε γ} {g : β → Except ε δ}
    (h : Agree R x y) (hf : ∀ a b, R a b → Agree S (f a) (g b)) : Agree S (x >>= f) (y >>= g) := by
  cases h with
  | ok same => exact hf _ _ same
  | error e e' => exact .error e e'

theorem bind_result {δ : Type} {S : γ → δ → Prop} {x : Logged ε α} {y : Logged ε β}
    {f : α → Logged ε γ} {g : β → Logged ε δ} (h : Agree R x.result y.result)
    (hf : ∀ a b, R a b → Agree S (f a).result (g b).result) :
    Agree S (x >>= f).result (y >>= g).result := by
  rw [Logged.result_bind, Logged.result_bind]
  exact h.bind hf

/-- Steps after steps that come to the same value. -/
theorem bind_eq {δ : Type} {S : γ → δ → Prop} {x y : Logged ε α} {f : α → Logged ε γ}
    {g : α → Logged ε δ} (h : Agree Eq x.result y.result)
    (hf : ∀ a, Agree S (f a).result (g a).result) :
    Agree S (x >>= f).result (y >>= g).result :=
  h.bind_result fun a _ hab => hab ▸ hf a

/-- Steps after one and the same step. -/
theorem next {δ : Type} {S : γ → δ → Prop} {x : Logged ε α} {f : α → Logged ε γ}
    {g : α → Logged ε δ} (hf : ∀ a, Agree S (f a).result (g a).result) :
    Agree S (x >>= f).result (x >>= g).result :=
  (Agree.refl _).bind_eq hf

end Agree

/-- Two steps come to the same, unless one of them has a fault of a certain sort. -/
inductive AgreeBut (bad : ε → Prop) (R : α → β → Prop) : Except ε α → Except ε β → Prop
  | agree {x : Except ε α} {y : Except ε β} (h : Agree R x y) : AgreeBut bad R x y
  | left {e : ε} (h : bad e) (y : Except ε β) : AgreeBut bad R (.error e) y
  | right {e : ε} (h : bad e) (x : Except ε α) : AgreeBut bad R x (.error e)

namespace AgreeBut

variable {γ δ : Type} {bad : ε → Prop} {R : α → β → Prop} {S : γ → δ → Prop}

/-- Where no fault is of the sort, the two agree. -/
theorem toAgree {x : Except ε α} {y : Except ε β} (h : AgreeBut bad R x y)
    (hx : ∀ e, bad e → x ≠ .error e) (hy : ∀ e, bad e → y ≠ .error e) : Agree R x y := by
  cases h with
  | agree h => exact h
  | left h => exact absurd rfl (hx _ h)
  | right h => exact absurd rfl (hy _ h)

theorem mapError {f : ε → ε} {x : Except ε α} {y : Except ε β} (hf : ∀ e, bad e → bad (f e))
    (h : AgreeBut bad R x y) : AgreeBut bad R (x.mapError f) (y.mapError f) := by
  cases h with
  | agree h => exact .agree h.mapError
  | left h => exact .left (hf _ h) _
  | right h => exact .right (hf _ h) _

theorem bind_result {x : Logged ε α} {y : Logged ε β} {f : α → Logged ε γ} {g : β → Logged ε δ}
    (h : AgreeBut bad R x.result y.result)
    (hf : ∀ a b, R a b → AgreeBut bad S (f a).result (g b).result) :
    AgreeBut bad S (x >>= f).result (y >>= g).result := by
  rw [Logged.result_bind, Logged.result_bind]
  revert h
  generalize x.result = x
  generalize y.result = y
  intro h
  cases h with
  | agree h =>
    cases h with
    | ok same => exact hf _ _ same
    | error e e' => exact .agree (.error e e')
  | left h => exact .left h _
  | right h => exact .right h _

/-- Steps after steps that come to the same value. -/
theorem bind_eq {x y : Logged ε α} {f : α → Logged ε γ} {g : α → Logged ε δ}
    (h : AgreeBut bad Eq x.result y.result)
    (hf : ∀ a, AgreeBut bad S (f a).result (g a).result) :
    AgreeBut bad S (x >>= f).result (y >>= g).result :=
  h.bind_result fun a _ hab => hab ▸ hf a

/-- Steps after one and the same step. -/
theorem next {x : Logged ε α} {f : α → Logged ε γ} {g : α → Logged ε δ}
    (hf : ∀ a, AgreeBut bad S (f a).result (g a).result) :
    AgreeBut bad S (x >>= f).result (x >>= g).result :=
  (AgreeBut.agree (.refl _)).bind_eq hf

end AgreeBut

end SuiteForge
