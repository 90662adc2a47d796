import Lateral.Filter.Predicate

/-!
The text of a filter, as a list of tokens with each condition as one. The tree is taken apart with a
list of open work, so no depth is too great. The parts of a group stand in a fixed order, conditions
first and sorted by path and column; conditions on one column, and all other parts, stay as they
came.
-/

namespace Lateral

inductive Token where
  | leftParen
  | rightParen
  | and
  | or
  | not
  | truth (value : Bool)
  | leaf (condition : Leaf)
  deriving DecidableEq, Repr

def Token.sql : Token → Template
  | .leftParen => "("
  | .rightParen => ")"
  | .and => " AND "
  | .or => " OR "
  | .not => "NOT "
  | .truth value => truthSql value
  | .leaf condition => condition.sql

namespace Filter

/-- Paths in the order of their names, a shorter one before its continuations. -/
def pathLt : List String → List String → Bool
  | _, [] => false
  | [], _ :: _ => true
  | a :: as, b :: bs => if a = b then pathLt as bs else decide (a < b)

def leafLe : Filter → Filter → Bool
  | .leaf c, .leaf d =>
    if c.path = d.path then textLe c.column d.column else pathLt c.path d.path
  | _, _ => true

def canonicalOrder (parts : List Filter) : List Filter :=
  sortBy leafLe (parts.filter isLeaf) ++ parts.filter fun f => !f.isLeaf

/-- How a filter is put down, piece by piece: the marks around and between its parts, and its
conditions. -/
structure Script (τ : Type) where
  opening : τ
  closing : τ
  and : τ
  or : τ
  not : τ
  truth : Bool → τ
  leaf : Condition → Except Error τ

/-- Work that is left: a piece to put down, or a part to take apart. -/
inductive Frame (τ : Type) where
  | piece (t : τ)
  | part (f : Filter)

section Work

variable {τ : Type}

def separated (separator : τ) : List Filter → List (Frame τ)
  | [] => []
  | [f] => [.part f]
  | f :: rest => .part f :: .piece separator :: separated separator rest

/-- A group without parts is a constant. -/
def groupFrames (w : Script τ) (separator : τ) (empty : Bool) (parts : List Filter) :
    List (Frame τ) :=
  if parts.isEmpty then [.piece (w.truth empty)]
  else .piece w.opening :: (separated separator (canonicalOrder parts) ++ [.piece w.closing])

end Work

mutual

def weight : Filter → Nat
  | .all parts => weights parts + 3
  | .any parts => weights parts + 3
  | .not part => weight part + 2
  | .never => 1
  | .leaf _ => 1

def weights : List Filter → Nat
  | [] => 0
  | part :: rest => weight part + 1 + weights rest

end

section Weight

variable {τ : Type}

def Frame.weight : Frame τ → Nat
  | .piece _ => 1
  | .part f => f.weight

def work : List (Frame τ) → Nat
  | [] => 0
  | frame :: rest => frame.weight + work rest

theorem weights_perm {parts others : List Filter} (same : parts.Perm others) :
    weights parts = weights others := by
  induction same with
  | nil => rfl
  | cons f _ ih => simp only [weights, ih]
  | swap f g rest =>
    simp only [weights]
    omega
  | trans _ _ first second => exact first.trans second

theorem canonicalOrder_perm (parts : List Filter) : (canonicalOrder parts).Perm parts :=
  ((sortBy_perm leafLe _).append_right _).trans (List.filter_append_perm isLeaf parts)

theorem weights_canonicalOrder (parts : List Filter) :
    weights (canonicalOrder parts) = weights parts :=
  weights_perm (canonicalOrder_perm parts)

theorem work_append (xs ys : List (Frame τ)) : work (xs ++ ys) = work xs + work ys := by
  induction xs with
  | nil => simp [work]
  | cons frame rest ih =>
    simp only [List.cons_append, work, ih]
    omega

theorem work_separated_le (separator : τ) (parts : List Filter) :
    work (separated separator parts) ≤ weights parts := by
  induction parts with
  | nil => simp [separated, work]
  | cons f rest ih =>
    cases rest with
    | nil => simp [separated, work, weights, Frame.weight]
    | cons g more =>
      simp only [separated, work, Frame.weight, weights] at ih ⊢
      omega

theorem work_groupFrames_lt (w : Script τ) (separator : τ) (empty : Bool) (parts : List Filter) :
    work (groupFrames w separator empty parts) < weights parts + 3 := by
  unfold groupFrames
  split
  · simp [work, Frame.weight]
  · have h := work_separated_le separator (canonicalOrder parts)
    rw [weights_canonicalOrder] at h
    simp only [work, work_append, Frame.weight]
    omega

/-- Takes the open work apart, from the front on. The pieces put down so far are kept last first. -/
def drainWith (w : Script τ) : List (Frame τ) → List τ → Except Error (List τ)
  | [], written => .ok written.reverse
  | .piece k :: rest, written => drainWith w rest (k :: written)
  | .part (.all parts) :: rest, written =>
    drainWith w (groupFrames w w.and true parts ++ rest) written
  | .part (.any parts) :: rest, written =>
    drainWith w (groupFrames w w.or false parts ++ rest) written
  | .part (.not part) :: rest, written => drainWith w (.piece w.not :: .part part :: rest) written
  | .part .never :: rest, written => drainWith w rest (w.truth false :: written)
  | .part (.leaf c) :: rest, written =>
    match w.leaf c with
    | .ok l => drainWith w rest (l :: written)
    | .error e => .error e
termination_by frames => work frames
decreasing_by
  · simp [work, Frame.weight]
  · have h := work_groupFrames_lt w w.and true parts
    rw [work_append]
    simp only [work, Frame.weight, weight]
    omega
  · have h := work_groupFrames_lt w w.or false parts
    rw [work_append]
    simp only [work, Frame.weight, weight]
    omega
  · simp only [work, Frame.weight, weight]
    omega
  · simp [work, Frame.weight, weight]
  · simp [work, Frame.weight, weight]

theorem drainWith_leaf (w : Script τ) (c : Condition) (rest : List (Frame τ)) (written : List τ) :
    drainWith w (.part (.leaf c) :: rest) written =
      w.leaf c >>= fun l => drainWith w rest (l :: written) := by
  rw [drainWith]
  cases w.leaf c with
  | error e => rfl
  | ok l => rfl

end Weight

def tokenScript (s : Schema) (t : Table) : Script Token where
  opening := .leftParen
  closing := .rightParen
  and := .and
  or := .or
  not := .not
  truth := .truth
  leaf c := Token.leaf <$> c.leaf s t

def drain (s : Schema) (t : Table) : List (Frame Token) → List Token → Except Error (List Token) :=
  drainWith (tokenScript s t)

def tokens (s : Schema) (t : Table) (f : Filter) : Except Error (List Token) :=
  drain s t [.part f] []

def sql (s : Schema) (t : Table) (f : Filter) : Except Error Template := do
  return (← f.tokens s t).flatMap Token.sql

end Filter

end Lateral
