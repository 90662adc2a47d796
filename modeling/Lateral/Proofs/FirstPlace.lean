import Mathlib.Data.List.Forall2
import Mathlib.Data.Prod.Lex
import Mathlib.Order.Bounds.Basic

/-!
Searches through lists, and through lists in lists. What a search returns stands at the least place
that has a value, places in lists of lists being compared lexicographically.
-/

namespace Lateral

variable {ι κ α β γ : Type}

/-- The result is what stands at the least place with a value. -/
structure IsFirst [LE ι] (value : ι → Option β) (result : Option β) : Prop where
  found : ∀ b, result = some b → ∃ i, IsLeast {i | (value i).isSome} i ∧ value i = some b
  missing : result = none → ∀ i, value i = none

theorem IsFirst.eq_some [PartialOrder ι] {value : ι → Option β} {result : Option β} {i : ι} {b : β}
    (first : IsFirst value result) (least : IsLeast {i | (value i).isSome} i)
    (here : value i = some b) : result = some b := by
  cases same : result with
  | none =>
    have nothing := first.missing same i
    rw [here] at nothing
    cases nothing
  | some b' =>
    obtain ⟨j, least', there⟩ := first.found b' same
    rw [least.unique least', there] at here
    exact here

theorem IsFirst.eq_none [LE ι] {value : ι → Option β} {result : Option β}
    (first : IsFirst value result) (nothing : ∀ i, value i = none) : result = none := by
  cases same : result with
  | none => rfl
  | some b =>
    obtain ⟨i, -, here⟩ := first.found b same
    rw [nothing i] at here
    cases here

theorem IsFirst.eq_none_iff [LE ι] {value : ι → Option β} {result : Option β}
    (first : IsFirst value result) : result = none ↔ {i | (value i).isSome} = ∅ := by
  rw [Set.eq_empty_iff_forall_notMem]
  constructor
  · intro nothing i place
    simp [first.missing nothing i] at place
  · intro empty
    refine first.eq_none fun i => ?_
    simpa using empty i

theorem isFirst_none [LE ι] : IsFirst (fun _ : ι => (none : Option β)) none :=
  ⟨nofun, fun _ _ => rfl⟩

theorem isFirst_findSome? (f : α → Option β) (xs : List α) :
    IsFirst (fun i : ℕ => xs[i]?.bind f) (xs.findSome? f) := by
  induction xs with
  | nil => exact ⟨by simp, by simp⟩
  | cons x rest ih =>
    rw [List.findSome?_cons]
    cases head : f x with
    | some b =>
      refine ⟨?_, by simp⟩
      intro b' same
      cases same
      exact ⟨0, ⟨by simp [head], fun i _ => Nat.zero_le i⟩, by simp [head]⟩
    | none =>
      constructor
      · intro b same
        obtain ⟨i, least, here⟩ := ih.found b same
        refine ⟨i + 1, ⟨by simpa using least.1, ?_⟩, by simpa using here⟩
        intro j place
        cases j with
        | zero => simp [head] at place
        | succ j => exact Nat.succ_le_succ (least.2 (by simpa using place))
      · intro nothing i
        cases i with
        | zero => simpa using head
        | succ i => simpa using ih.missing nothing i

/-- The first of the firsts stands at the least place in lexicographic order. -/
theorem IsFirst.lex [PartialOrder ι] [Preorder κ] (value : ι → κ → Option β) {inner : ι → Option β}
    {result : Option β} (outer : IsFirst inner result) (each : ∀ i, IsFirst (value i) (inner i)) :
    IsFirst (fun x : ι ×ₗ κ => value (ofLex x).1 (ofLex x).2) result := by
  constructor
  · intro b same
    obtain ⟨i, least, here⟩ := outer.found b same
    obtain ⟨j, inside, there⟩ := (each i).found b here
    refine ⟨toLex (i, j), ⟨by simp [there], ?_⟩, there⟩
    intro x place
    rw [Prod.Lex.le_iff]
    -- A row with a value comes no earlier than the first; in the first row, its own least place
    -- decides.
    have row : (inner (ofLex x).1).isSome := by
      rw [Option.isSome_iff_ne_none]
      intro nothing
      have empty := (each _).missing nothing (ofLex x).2
      simp [empty] at place
    rcases (least.2 row).lt_or_eq with before | same
    · exact .inl before
    · refine .inr ⟨same, inside.2 ?_⟩
      change i = (ofLex x).1 at same
      rw [same]
      exact place
  · intro nothing x
    exact (each _).missing (outer.missing nothing _) _

theorem findSome?_congr {f g : α → Option β} {xs : List α} (same : ∀ x ∈ xs, f x = g x) :
    xs.findSome? f = xs.findSome? g := by
  induction xs with
  | nil => rfl
  | cons x rest ih =>
    rw [List.findSome?_cons, List.findSome?_cons, same x (List.mem_cons_self ..),
      ih fun y member => same y (List.mem_cons_of_mem _ member)]

theorem findSome?_forall₂ {f : α → Option γ} {g : β → Option γ} {xs : List α} {ys : List β}
    (same : List.Forall₂ (fun x y => f x = g y) xs ys) : xs.findSome? f = ys.findSome? g := by
  induction same with
  | nil => rfl
  | cons first _ ih => rw [List.findSome?_cons, List.findSome?_cons, first, ih]

theorem findSome?_flatMap (f : β → Option γ) (g : α → List β) (xs : List α) :
    (xs.flatMap g).findSome? f = xs.findSome? fun x => (g x).findSome? f := by
  induction xs with
  | nil => rfl
  | cons x rest ih =>
    rw [List.flatMap_cons, List.findSome?_append, ih, List.findSome?_cons]
    cases (g x).findSome? f <;> rfl

theorem findSome?_filterMap (f : β → Option γ) (g : α → Option β) (xs : List α) :
    (xs.filterMap g).findSome? f = xs.findSome? fun x => (g x).bind f := by
  induction xs with
  | nil => rfl
  | cons x rest ih =>
    rw [List.filterMap_cons, List.findSome?_cons]
    cases g x with
    | none => exact ih
    | some y =>
      rw [List.findSome?_cons, ih]
      rfl

theorem findSome?_filter (f : α → Option β) (p : α → Bool) (xs : List α) :
    (xs.filter p).findSome? f = xs.findSome? fun x => if p x then f x else none := by
  induction xs with
  | nil => rfl
  | cons x rest ih =>
    rw [List.filter_cons, List.findSome?_cons]
    split
    · rw [List.findSome?_cons, ih]
    · exact ih

theorem findSome?_ite (f : α → β) (q : α → Bool) (xs : List α) :
    (xs.findSome? fun x => if q x then some (f x) else none) = (xs.find? q).map f := by
  induction xs with
  | nil => rfl
  | cons x rest ih =>
    rw [List.findSome?_cons, List.find?_cons]
    cases q x with
    | true => rfl
    | false => exact ih

end Lateral
