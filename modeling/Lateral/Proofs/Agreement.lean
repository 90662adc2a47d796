import Lateral.Proofs.Outcome

/-!
Two computations side by side. They agree if they are refused for the same reason, or return related
values; computations built in the same way from parts that agree do so themselves.
-/

namespace Lateral.Outcome

variable {ε α β γ δ : Type}

inductive Agree (R : α → β → Prop) : Except ε α → Except ε β → Prop where
  | ok {a : α} {b : β} (related : R a b) : Agree R (.ok a) (.ok b)
  | error (e : ε) : Agree R (.error e) (.error e)

namespace Agree

variable {R : α → β → Prop} {S : γ → δ → Prop} {x : Except ε α} {y : Except ε β}

theorem bind {f : α → Except ε γ} {g : β → Except ε δ} (first : Agree R x y)
    (next : ∀ a b, R a b → Agree S (f a) (g b)) : Agree S (x >>= f) (y >>= g) := by
  cases first with
  | ok related => exact next _ _ related
  | error e => exact .error e

theorem bind_right {T : α → δ → Prop} {g : β → Except ε δ} (first : Agree R x y)
    (next : ∀ a b, R a b → Agree T (.ok a) (g b)) : Agree T x (y >>= g) := by
  cases first with
  | ok related => exact next _ _ related
  | error e => exact .error e

theorem imp {T : α → β → Prop} (both : Agree R x y) (each : ∀ a b, R a b → T a b) :
    Agree T x y := by
  cases both with
  | ok related => exact .ok (each _ _ related)
  | error e => exact .error e

theorem map {f : α → γ} {g : β → δ} (first : Agree R x y) (each : ∀ a b, R a b → S (f a) (g b)) :
    Agree S (f <$> x) (g <$> y) := by
  cases first with
  | ok related => exact .ok (each _ _ related)
  | error e => exact .error e

theorem of_runs (both : Agree R x y) : Agree (fun a b => R a b ∧ x = .ok a ∧ y = .ok b) x y := by
  cases both with
  | ok related => exact .ok ⟨related, rfl, rfl⟩
  | error e => exact .error e

theorem refl {R : α → α → Prop} (same : ∀ a, R a a) (x : Except ε α) : Agree R x x := by
  cases x with
  | error e => exact .error e
  | ok a => exact .ok (same a)

theorem bind_same {f : α → Except ε γ} {g : α → Except ε δ} (x : Except ε α)
    (next : ∀ a, x = .ok a → Agree S (f a) (g a)) : Agree S (x >>= f) (x >>= g) := by
  cases x with
  | error e => exact .error e
  | ok a => exact next a rfl

theorem check {c : Prop} [Decidable c] {e : ε} {f : PUnit → Except ε γ} {g : PUnit → Except ε δ}
    (next : ¬ c → Agree S (f ⟨⟩) (g ⟨⟩)) :
    Agree S (if c then (throw e >>= f) else f ⟨⟩) (if c then (throw e >>= g) else g ⟨⟩) := by
  by_cases refused : c
  · rw [if_pos refused, if_pos refused]
    exact .error e
  · rw [if_neg refused, if_neg refused]
    exact next refused

theorem mapM {f : α → Except ε γ} {g : β → Except ε δ} {xs : List α} {ys : List β}
    (each : List.Forall₂ (fun a b => Agree S (f a) (g b)) xs ys) :
    Agree (List.Forall₂ S) (xs.mapM f) (ys.mapM g) := by
  induction each with
  | nil => exact .ok .nil
  | cons first _ ih =>
    rw [List.mapM_cons, List.mapM_cons]
    exact first.bind fun _ _ head => ih.bind fun _ _ tail => .ok (.cons head tail)

theorem mapM_same {f : α → Except ε γ} {g : α → Except ε δ} (xs : List α)
    (each : ∀ a ∈ xs, Agree S (f a) (g a)) : Agree (List.Forall₂ S) (xs.mapM f) (xs.mapM g) :=
  mapM (List.forall₂_same.mpr each)

theorem eq {y : Except ε α} (both : Agree (fun a b => a = b) x y) : x = y := by
  cases both with
  | ok related => exact congrArg Except.ok related
  | error e => rfl

end Agree

end Lateral.Outcome
