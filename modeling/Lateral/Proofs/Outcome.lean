import Mathlib.Data.List.Forall2
import Mathlib.Data.List.Perm.Basic

/-!
Computations that may be refused. When one succeeds, each of its parts has succeeded; these laws say
what the parts returned.
-/

namespace Lateral.Outcome

variable {ε α β : Type}

theorem bind_eq_ok {x : Except ε α} {f : α → Except ε β} {b : β} :
    (x >>= f) = .ok b ↔ ∃ a, x = .ok a ∧ f a = .ok b := by
  cases x with
  | error e => simp [bind, Except.bind]
  | ok a => simp [bind, Except.bind]

theorem bind_eq_error {x : Except ε α} {f : α → Except ε β} {e : ε} :
    (x >>= f) = .error e ↔ x = .error e ∨ ∃ a, x = .ok a ∧ f a = .error e := by
  cases x with
  | error e' => simp [bind, Except.bind]
  | ok a => simp [bind, Except.bind]

theorem map_eq_ok {x : Except ε α} {f : α → β} {b : β} :
    (f <$> x) = .ok b ↔ ∃ a, x = .ok a ∧ f a = b := by
  cases x with
  | error e => simp [Functor.map, Except.map]
  | ok a => simp [Functor.map, Except.map]

theorem map_eq_error {x : Except ε α} {f : α → β} {e : ε} :
    (f <$> x) = .error e ↔ x = .error e := by
  cases x with
  | error e' => simp [Functor.map, Except.map]
  | ok a => simp [Functor.map, Except.map]

theorem pure_eq_ok {a b : α} : (pure a : Except ε α) = .ok b ↔ a = b := by
  simp [pure, Except.pure]

theorem throw_eq_ok {e : ε} {b : α} : (throw e : Except ε α) = .ok b ↔ False := by
  simp [throw, throwThe, MonadExceptOf.throw]

theorem check_eq_ok {c : Prop} [Decidable c] {e : ε} {next : PUnit → Except ε β} {b : β} :
    (if c then (throw e >>= next) else next ⟨⟩) = .ok b ↔ ¬ c ∧ next ⟨⟩ = .ok b := by
  by_cases h : c
  · simp [h, bind_eq_ok, throw_eq_ok]
  · simp [h]

theorem check_when_eq_ok {c : Prop} [Decidable c] {check : Except ε PUnit}
    {next : PUnit → Except ε β} {b : β} :
    (if c then (check >>= next) else next ⟨⟩) = .ok b ↔
      (c → check = .ok ⟨⟩) ∧ next ⟨⟩ = .ok b := by
  by_cases h : c
  · simp only [h, ↓reduceIte, forall_const, bind_eq_ok]
    constructor
    · rintro ⟨⟨⟩, passed, rest⟩
      exact ⟨passed, rest⟩
    · intro both
      exact ⟨⟨⟩, both⟩
  · simp [h]

theorem choice_eq_ok {c : Prop} [Decidable c] {x y : Except ε α} {next : α → Except ε β} {b : β} :
    (if c then (x >>= next) else (y >>= next)) = .ok b ↔
      ∃ a, (if c then x else y) = .ok a ∧ next a = .ok b := by
  split <;> exact bind_eq_ok

theorem map_eq_map_iff_forall₂ {γ : Type} {f : α → γ} {g : β → γ} {xs : List α} {ys : List β} :
    xs.map f = ys.map g ↔ List.Forall₂ (fun x y => f x = g y) xs ys := by
  rw [← List.forall₂_eq_eq_eq, List.forall₂_map_left_iff, List.forall₂_map_right_iff]

theorem mapM_eq_ok {f : α → Except ε β} {xs : List α} {ys : List β} :
    xs.mapM f = .ok ys ↔ List.Forall₂ (fun x y => f x = .ok y) xs ys := by
  induction xs generalizing ys with
  | nil => cases ys <;> simp [pure_eq_ok]
  | cons x rest ih =>
    simp only [List.mapM_cons, bind_eq_ok, pure_eq_ok, ih]
    constructor
    · rintro ⟨y, first, more, others, rfl⟩
      exact .cons first others
    · intro all
      cases all with
      | cons first others => exact ⟨_, first, _, others, rfl⟩

theorem forall₂_imp_mem {R P : α → β → Prop} {xs : List α} {ys : List β}
    (all : List.Forall₂ R xs ys) (each : ∀ x ∈ xs, ∀ y, R x y → P x y) : List.Forall₂ P xs ys := by
  induction all with
  | nil => exact .nil
  | cons first others ih =>
    exact .cons (each _ (List.mem_cons_self ..) _ first)
      (ih fun x member => each x (List.mem_cons_of_mem _ member))

theorem mapM_forall {f : α → Except ε β} {P : α → β → Prop} {xs : List α} {ys : List β}
    (each : ∀ x ∈ xs, ∀ y, f x = .ok y → P x y) (run : xs.mapM f = .ok ys) :
    List.Forall₂ P xs ys :=
  forall₂_imp_mem (mapM_eq_ok.mp run) each

theorem mapM_congr {f g : α → Except ε β} {xs : List α} (same : ∀ x ∈ xs, f x = g x) :
    xs.mapM f = xs.mapM g := by
  induction xs with
  | nil => rfl
  | cons x rest ih =>
    rw [List.mapM_cons, List.mapM_cons, same x (List.mem_cons_self ..),
      ih fun y member => same y (List.mem_cons_of_mem _ member)]

theorem mapM_map_result {γ : Type} {f : α → Except ε β} {g : β → γ} (xs : List α) :
    xs.mapM (fun x => g <$> f x) = List.map g <$> xs.mapM f := by
  induction xs with
  | nil => rfl
  | cons x rest ih =>
    rw [List.mapM_cons, List.mapM_cons, ih]
    cases f x with
    | error e => rfl
    | ok y =>
      cases rest.mapM f with
      | error e => rfl
      | ok ys => rfl

theorem forall₂_mem_left {R : α → β → Prop} {xs : List α} {ys : List β}
    (all : List.Forall₂ R xs ys) {x : α} (member : x ∈ xs) : ∃ y ∈ ys, R x y := by
  induction all with
  | nil => cases member
  | cons first others ih =>
    rcases List.mem_cons.mp member with rfl | later
    · exact ⟨_, List.mem_cons_self .., first⟩
    · obtain ⟨y, among, made⟩ := ih later
      exact ⟨y, List.mem_cons_of_mem _ among, made⟩

theorem mapM_mem {f : α → Except ε β} {xs : List α} {ys : List β} {x : α}
    (run : xs.mapM f = .ok ys) (member : x ∈ xs) : ∃ y ∈ ys, f x = .ok y :=
  forall₂_mem_left (mapM_eq_ok.mp run) member

theorem mapM_made {f : α → Except ε β} {xs : List α} {ys : List β} {y : β}
    (run : xs.mapM f = .ok ys) (member : y ∈ ys) : ∃ x ∈ xs, f x = .ok y :=
  forall₂_mem_left (mapM_eq_ok.mp run).flip member

theorem mapM_returns {f : α → Except ε β} {xs : List α} (each : ∀ x ∈ xs, ∃ y, f x = .ok y) :
    ∃ ys, xs.mapM f = .ok ys := by
  induction xs with
  | nil => exact ⟨[], rfl⟩
  | cons x rest ih =>
    obtain ⟨y, first⟩ := each x (List.mem_cons_self ..)
    obtain ⟨ys, others⟩ := ih fun z member => each z (List.mem_cons_of_mem x member)
    rw [List.mapM_cons, first, others]
    exact ⟨y :: ys, rfl⟩

theorem mapM_eq_error {f : α → Except ε β} {xs : List α} {e : ε} (run : xs.mapM f = .error e) :
    ∃ before x after, xs = before ++ x :: after ∧ (∀ b ∈ before, ∃ y, f b = .ok y) ∧
      f x = .error e := by
  induction xs with
  | nil => cases run
  | cons x rest ih =>
    rw [List.mapM_cons] at run
    rcases bind_eq_error.mp run with refused | ⟨y, first, run⟩
    · exact ⟨[], x, rest, rfl, List.forall_mem_nil _, refused⟩
    · rcases bind_eq_error.mp run with others | ⟨ys, _, returned⟩
      · obtain ⟨before, z, after, rfl, made, refused⟩ := ih others
        exact ⟨x :: before, z, after, rfl, List.forall_mem_cons.mpr ⟨⟨y, first⟩, made⟩, refused⟩
      · cases returned

section Returned

theorem isSome_toOption (x : Except ε α) : x.toOption.isSome = x.isOk := by
  cases x <;> rfl

theorem toOption_refused {x : Except ε α} (refused : x.isOk = false) : x.toOption = none := by
  cases x with
  | error e => rfl
  | ok a => cases refused

theorem toOption_bind (x : Except ε α) (f : α → Except ε β) :
    (x >>= f).toOption = x.toOption.bind fun a => (f a).toOption := by
  cases x <;> rfl

theorem toOption_map (f : α → β) (x : Except ε α) : (f <$> x).toOption = x.toOption.map f := by
  cases x <;> rfl

theorem toOption_mapM (f : α → Except ε β) (xs : List α) :
    (xs.mapM f).toOption = xs.mapM fun x => (f x).toOption := by
  induction xs with
  | nil => rfl
  | cons x rest ih =>
    simp only [List.mapM_cons, toOption_bind, ih]
    rfl

variable {γ : Type}

theorem isOk_bind {x : Except ε α} {y : Except ε β} {f : α → Except ε γ} {g : β → Except ε γ}
    (first : x.isOk = y.isOk)
    (rest : ∀ a b, x = .ok a → y = .ok b → (f a).isOk = (g b).isOk) :
    (x >>= f).isOk = (y >>= g).isOk := by
  cases x with
  | error e =>
    cases y with
    | error e' => rfl
    | ok b => cases first
  | ok a =>
    cases y with
    | error e => cases first
    | ok b => exact rest a b rfl rfl

theorem option_mapM_bind (f : α → Option β) (g : β → Option γ) (xs : List α) :
    xs.mapM (fun x => (f x).bind g) = (xs.mapM f).bind fun ys => ys.mapM g := by
  induction xs with
  | nil => rfl
  | cons x rest ih =>
    rw [List.mapM_cons, List.mapM_cons, ih]
    cases f x with
    | none => rfl
    | some y =>
      cases rest.mapM f with
      | none => cases first : g y <;> simp [first]
      | some ys => simp

theorem option_mapM_map (f : α → Option β) (g : β → γ) (xs : List α) :
    xs.mapM (fun x => (f x).map g) = (xs.mapM f).map (List.map g) := by
  induction xs with
  | nil => rfl
  | cons x rest ih =>
    rw [List.mapM_cons, List.mapM_cons, ih]
    cases f x with
    | none => rfl
    | some y =>
      cases rest.mapM f with
      | none => rfl
      | some ys => rfl

theorem option_mapM_eq_some {f : α → Option β} {xs : List α} {ys : List β} :
    xs.mapM f = some ys ↔ List.Forall₂ (fun x y => f x = some y) xs ys := by
  induction xs generalizing ys with
  | nil => cases ys <;> simp
  | cons x rest ih =>
    simp only [List.mapM_cons, Option.bind_eq_bind, Option.bind_eq_some_iff, ih]
    constructor
    · rintro ⟨y, first, more, others, returned⟩
      cases returned
      exact .cons first others
    · intro all
      cases all with
      | cons first others => exact ⟨_, first, _, others, rfl⟩

theorem option_mapM_congr {f : α → Option γ} {g : β → Option γ} {xs : List α} {ys : List β}
    (same : List.Forall₂ (fun x y => f x = g y) xs ys) : xs.mapM f = ys.mapM g := by
  induction same with
  | nil => rfl
  | cons first _ ih => rw [List.mapM_cons, List.mapM_cons, first, ih]

theorem option_mapM_around {f : α → Option β} {before after : List α} {x : α} {ys : List β} :
    (before ++ x :: after).mapM f = some ys ↔ ∃ front y back, before.mapM f = some front ∧
      f x = some y ∧ after.mapM f = some back ∧ ys = front ++ y :: back := by
  simp only [option_mapM_eq_some]
  constructor
  · intro all
    induction before generalizing ys with
    | nil =>
      cases all with
      | cons made rest => exact ⟨[], _, _, .nil, made, rest, rfl⟩
    | cons z before ih =>
      cases all with
      | cons first all =>
        obtain ⟨front, y, back, others, made, rest, rfl⟩ := ih all
        exact ⟨_ :: front, y, back, .cons first others, made, rest, rfl⟩
  · rintro ⟨front, y, back, first, made, rest, rfl⟩
    exact List.rel_append first (.cons made rest)

theorem option_mapM_perm {f : α → Option β} {xs ys : List α} {as : List β} (same : xs.Perm ys)
    (run : xs.mapM f = some as) : ∃ bs, ys.mapM f = some bs ∧ as.Perm bs := by
  obtain ⟨bs, made, order⟩ := List.perm_comp_forall₂ same.symm (option_mapM_eq_some.mp run)
  exact ⟨bs, option_mapM_eq_some.mpr made, order.symm⟩

theorem option_mapM_perm_none {f : α → Option β} {xs ys : List α} (same : xs.Perm ys)
    (refused : xs.mapM f = none) : ys.mapM f = none := by
  cases run : ys.mapM f with
  | none => rfl
  | some bs =>
    obtain ⟨_, made, -⟩ := option_mapM_perm same.symm run
    cases refused.symm.trans made

end Returned

end Lateral.Outcome
