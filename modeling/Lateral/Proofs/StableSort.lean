import Lateral.Sorted
import Mathlib.Order.Lattice

/-!
Stable sorting by a rank. Elements of different ranks come out in the order of their ranks, however
they went in. Elements of equal rank keep their order, so a list that goes in another way comes out
with ties exchanged, and nothing else. The order of the ranks and that of the ties determine the
result.
-/

namespace Lateral

variable {α κ : Type}

/-- The one list is the other with neighbours of equal rank exchanged. -/
inductive Exchanged (rank : α → κ) : List α → List α → Prop where
  | nil : Exchanged rank [] []
  | cons (a : α) {xs ys : List α} (rest : Exchanged rank xs ys) :
      Exchanged rank (a :: xs) (a :: ys)
  | swap {a b : α} (tie : rank a = rank b) (xs : List α) :
      Exchanged rank (a :: b :: xs) (b :: a :: xs)
  | trans {xs ys zs : List α} (first : Exchanged rank xs ys) (second : Exchanged rank ys zs) :
      Exchanged rank xs zs

namespace Exchanged

variable {rank : α → κ} {xs ys : List α}

theorem refl (xs : List α) : Exchanged rank xs xs := by
  induction xs with
  | nil => exact .nil
  | cons a rest ih => exact .cons a ih

theorem append_left (before : List α) (exchanged : Exchanged rank xs ys) :
    Exchanged rank (before ++ xs) (before ++ ys) := by
  induction before with
  | nil => exact exchanged
  | cons a rest ih => exact .cons a ih

theorem perm (exchanged : Exchanged rank xs ys) : xs.Perm ys := by
  induction exchanged with
  | nil => exact .nil
  | cons a _ ih => exact ih.cons a
  | swap _ xs => exact .swap _ _ xs
  | trans _ _ first second => exact first.trans second

end Exchanged

section Insertion

variable {le : α → α → Bool} {a : α}

theorem insertSorted_append {before : List α} (passed : ∀ b ∈ before, le a b = false)
    (xs : List α) : insertSorted le a (before ++ xs) = before ++ insertSorted le a xs := by
  induction before with
  | nil => rfl
  | cons b rest ih =>
    obtain ⟨first, others⟩ := List.forall_mem_cons.mp passed
    simp [insertSorted, first, ih others]

theorem insertSorted_place (le : α → α → Bool) (a : α) (xs : List α) : ∃ before after,
    (∀ b ∈ before, le a b = false) ∧
      ∀ c, le c = le a → insertSorted le c xs = before ++ c :: after := by
  induction xs with
  | nil => exact ⟨[], [], List.forall_mem_nil _, fun c _ => rfl⟩
  | cons d rest ih =>
    cases stop : le a d with
    | true =>
      refine ⟨[], d :: rest, List.forall_mem_nil _, ?_⟩
      intro c alike
      simp [insertSorted, alike, stop]
    | false =>
      obtain ⟨before, after, passed, placed⟩ := ih
      refine ⟨d :: before, after, List.forall_mem_cons.mpr ⟨stop, passed⟩, ?_⟩
      intro c alike
      simp [insertSorted, alike, stop, placed c alike]

end Insertion

variable [LinearOrder κ]

def rankLe (rank : α → κ) (a b : α) : Bool := decide (rank a ≤ rank b)

section Ranked

variable {rank : α → κ} {a b : α}

theorem rankLe_tie (tie : rank a = rank b) : rankLe rank a = rankLe rank b := by
  funext c
  rw [rankLe, rankLe, tie]

theorem rankLe_tie_right (tie : rank a = rank b) (c : α) : rankLe rank c a = rankLe rank c b := by
  rw [rankLe, rankLe, tie]

theorem insertSorted_comm_of_lt (less : rank a < rank b) (xs : List α) :
    insertSorted (rankLe rank) a (insertSorted (rankLe rank) b xs) =
      insertSorted (rankLe rank) b (insertSorted (rankLe rank) a xs) := by
  have forward : rankLe rank a b = true := by simp [rankLe, le_of_lt less]
  have backward : rankLe rank b a = false := by simp [rankLe, less]
  induction xs with
  | nil => simp [insertSorted, forward, backward]
  | cons c rest ih =>
    by_cases later : rank b ≤ rank c
    · have stop : rankLe rank b c = true := by simp [rankLe, later]
      have stop' : rankLe rank a c = true := by simp [rankLe, le_trans (le_of_lt less) later]
      simp [insertSorted, stop, stop', forward, backward]
    · have pass : rankLe rank b c = false := by simp [rankLe, not_le.mp later]
      cases stop : rankLe rank a c with
      | true => simp [insertSorted, pass, stop, backward]
      | false => simp [insertSorted, pass, stop, ih]

/-- Elements of equal rank end up side by side, the one that was put in last in front. -/
theorem insertSorted_tie (tie : rank a = rank b) (xs : List α) : ∃ before after,
    insertSorted (rankLe rank) a (insertSorted (rankLe rank) b xs) = before ++ a :: b :: after ∧
    insertSorted (rankLe rank) b (insertSorted (rankLe rank) a xs) =
      before ++ b :: a :: after := by
  obtain ⟨before, after, passed, placed⟩ := insertSorted_place (rankLe rank) a xs
  refine ⟨before, after, ?_, ?_⟩
  · have stop : rankLe rank a b = true := by simp [rankLe, tie]
    rw [placed b (rankLe_tie tie.symm), insertSorted_append passed]
    simp [insertSorted, stop]
  · have stop : rankLe rank b a = true := by simp [rankLe, tie]
    have passed' : ∀ c ∈ before, rankLe rank b c = false := by
      rw [← rankLe_tie tie]
      exact passed
    rw [placed a rfl, insertSorted_append passed']
    simp [insertSorted, stop]

theorem insertSorted_replaced (tie : rank a = rank b) (c : α) (before after : List α) :
    ∃ before' after', insertSorted (rankLe rank) c (before ++ a :: after) =
        before' ++ a :: after' ∧
      insertSorted (rankLe rank) c (before ++ b :: after) = before' ++ b :: after' := by
  have alike : rankLe rank c a = rankLe rank c b := rankLe_tie_right tie c
  induction before with
  | nil =>
    cases stop : rankLe rank c b with
    | true => exact ⟨[c], after, by simp [insertSorted, alike, stop], by simp [insertSorted, stop]⟩
    | false =>
      exact ⟨[], insertSorted (rankLe rank) c after, by simp [insertSorted, alike, stop],
        by simp [insertSorted, stop]⟩
  | cons d before ih =>
    cases stop : rankLe rank c d with
    | true =>
      exact ⟨c :: d :: before, after, by simp [insertSorted, stop], by simp [insertSorted, stop]⟩
    | false =>
      obtain ⟨before', after', one, other⟩ := ih
      exact ⟨d :: before', after', by simp [insertSorted, stop, one],
        by simp [insertSorted, stop, other]⟩

theorem Exchanged.insertSorted {xs ys : List α} (exchanged : Exchanged rank xs ys) (c : α) :
    Exchanged rank (insertSorted (rankLe rank) c xs) (insertSorted (rankLe rank) c ys) := by
  induction exchanged with
  | nil => exact .refl _
  | cons d rest ih =>
    simp only [Lateral.insertSorted]
    split
    · exact .cons c (.cons d rest)
    · exact .cons d ih
  | @swap d e tie xs =>
    have alike : rankLe rank c d = rankLe rank c e := rankLe_tie_right tie c
    cases stop : rankLe rank c e with
    | true =>
      simp only [Lateral.insertSorted, alike, stop, if_true]
      exact .cons c (.swap tie xs)
    | false =>
      simp only [Lateral.insertSorted, alike, stop, Bool.false_eq_true, if_false]
      exact .swap tie _
  | trans _ _ first second => exact first.trans second

theorem exchanged_of_perm {xs ys : List α} (same : xs.Perm ys) :
    Exchanged rank (sortBy (rankLe rank) xs) (sortBy (rankLe rank) ys) := by
  induction same with
  | nil => exact .nil
  | cons c _ ih => exact ih.insertSorted c
  | swap c d xs =>
    simp only [sortBy]
    -- Only a tie leaves a trace of which of the two was put in first.
    rcases lt_trichotomy (rank d) (rank c) with less | tie | greater
    · rw [insertSorted_comm_of_lt less]
      exact .refl _
    · obtain ⟨before, after, one, other⟩ := insertSorted_tie tie (sortBy (rankLe rank) xs)
      rw [one, other]
      exact (Exchanged.swap tie after).append_left before
    · rw [insertSorted_comm_of_lt greater]
      exact .refl _
  | trans _ _ first second => exact first.trans second

theorem sortBy_replaced (tie : rank a = rank b) (before after : List α) :
    ∃ before' after', sortBy (rankLe rank) (before ++ a :: after) = before' ++ a :: after' ∧
      sortBy (rankLe rank) (before ++ b :: after) = before' ++ b :: after' := by
  induction before with
  | nil =>
    obtain ⟨before, later, -, placed⟩ :=
      insertSorted_place (rankLe rank) a (sortBy (rankLe rank) after)
    exact ⟨before, later, placed a rfl, placed b (rankLe_tie tie.symm)⟩
  | cons c before ih =>
    obtain ⟨before', after', one, other⟩ := ih
    simp only [List.cons_append, sortBy, one, other]
    exact insertSorted_replaced tie c before' after'

section Mapped

variable {β : Type} {rank' : β → κ} {f : α → Option β}

theorem mapM_insertSorted (keeps : ∀ a b, f a = some b → rank' b = rank a) (a : α) (xs : List α) :
    (insertSorted (rankLe rank) a xs).mapM f =
      (f a).bind fun b => (xs.mapM f).map (insertSorted (rankLe rank') b) := by
  induction xs with
  | nil =>
    simp only [insertSorted, List.mapM_cons, List.mapM_nil]
    rfl
  | cons c rest ih =>
    cases first : f a with
    | none => cases second : f c <;> simp [insertSorted, apply_ite, first, second, ih]
    | some b =>
      cases second : f c with
      | none => simp [insertSorted, apply_ite, first, second, ih]
      | some d =>
        have alike : rankLe rank' b d = rankLe rank a c := by
          rw [rankLe, rankLe, keeps a b first, keeps c d second]
        rw [first, Option.bind_some] at ih
        cases stop : rankLe rank a c with
        | true =>
          cases others : rest.mapM f <;> simp [insertSorted, first, second, others, alike, stop]
        | false =>
          cases others : rest.mapM f <;>
            simp [insertSorted, second, others, ih, alike, stop]

theorem mapM_sortBy (keeps : ∀ a b, f a = some b → rank' b = rank a) (xs : List α) :
    (sortBy (rankLe rank) xs).mapM f = (xs.mapM f).map (sortBy (rankLe rank')) := by
  induction xs with
  | nil => rfl
  | cons a rest ih =>
    simp only [sortBy, mapM_insertSorted keeps, ih, List.mapM_cons]
    cases f a with
    | none => rfl
    | some b =>
      cases rest.mapM f with
      | none => rfl
      | some bs => rfl

end Mapped

end Ranked

end Lateral
