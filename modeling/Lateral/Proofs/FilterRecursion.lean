import Lateral.Filter.Tokens
import Lateral.Proofs.Outcome

/-!
The tokens of a filter by recursion on the tree. Taking a tree apart with a list of open work gives
the same tokens, and the same refusal, because what a part stands for never depends on the work that
waits behind it.
-/

namespace Lateral.Filter
open Outcome

def joinTokens (separator : Token) : List (List Token) → List Token
  | [] => []
  | [ts] => ts
  | ts :: rest => ts ++ separator :: joinTokens separator rest

def groupTokens (separator : Token) (empty : Bool) (texts : List (List Token)) : List Token :=
  if texts.isEmpty then [.truth empty]
  else .leftParen :: (joinTokens separator texts ++ [.rightParen])

theorem weight_lt_of_mem {f : Filter} {parts : List Filter} (member : f ∈ parts) :
    f.weight < weights parts := by
  induction parts with
  | nil => cases member
  | cons g rest ih =>
    simp only [weights]
    rcases List.mem_cons.mp member with rfl | later
    · omega
    · have := ih later
      omega

theorem weight_lt_of_ordered {f : Filter} {parts : List Filter}
    (member : f ∈ canonicalOrder parts) : f.weight < weights parts :=
  weight_lt_of_mem ((canonicalOrder_perm parts).mem_iff.mp member)

def nestedTokens (s : Schema) (t : Table) : Filter → Except Error (List Token)
  | .all parts =>
    groupTokens .and true <$> (canonicalOrder parts).attach.mapM fun f => nestedTokens s t f.1
  | .any parts =>
    groupTokens .or false <$> (canonicalOrder parts).attach.mapM fun f => nestedTokens s t f.1
  | .not part => (Token.not :: ·) <$> nestedTokens s t part
  | .never => .ok [.truth false]
  | .leaf c => (fun l => [Token.leaf l]) <$> c.leaf s t
termination_by f => f.weight
decreasing_by
  · have := weight_lt_of_ordered f.2
    simp only [weight]
    omega
  · have := weight_lt_of_ordered f.2
    simp only [weight]
    omega
  · simp only [weight]
    omega

section Drain

variable {s : Schema} {t : Table}

theorem nestedTokens_all (parts : List Filter) :
    nestedTokens s t (.all parts) =
      groupTokens .and true <$> (canonicalOrder parts).mapM (nestedTokens s t) := by
  rw [nestedTokens, List.mapM_subtype (g := nestedTokens s t) fun _ _ => rfl, List.unattach_attach]

theorem nestedTokens_any (parts : List Filter) :
    nestedTokens s t (.any parts) =
      groupTokens .or false <$> (canonicalOrder parts).mapM (nestedTokens s t) := by
  rw [nestedTokens, List.mapM_subtype (g := nestedTokens s t) fun _ _ => rfl, List.unattach_attach]

/-- A part is taken apart completely before the work that waits behind it. -/
def Settles (s : Schema) (t : Table) (f : Filter) : Prop :=
  ∀ rest written, drain s t (.part f :: rest) written =
    nestedTokens s t f >>= fun ts => drain s t rest (ts.reverse ++ written)

theorem drain_piece (k : Token) (rest : List (Frame Token)) (written : List Token) :
    drain s t (.piece k :: rest) written = drain s t rest (k :: written) := by
  rw [drain, drainWith]

theorem drain_separated {separator : Token} {fs : List Filter}
    (each : ∀ f ∈ fs, Settles s t f) (rest : List (Frame Token)) (written : List Token) :
    drain s t (separated separator fs ++ rest) written =
      fs.mapM (nestedTokens s t) >>= fun texts =>
        drain s t rest ((joinTokens separator texts).reverse ++ written) := by
  induction fs generalizing written with
  | nil => rfl
  | cons f more ih =>
    have first := each f (List.mem_cons_self ..)
    cases more with
    | nil => simp [separated, joinTokens, first rest written]
    | cons g later =>
      have others := ih fun h member => each h (List.mem_cons_of_mem f member)
      change drain s t (.part f :: .piece separator :: (separated separator (g :: later) ++ rest))
        written = _
      simp only [first _ written, drain_piece, others, List.mapM_cons, bind_assoc, pure_bind,
        joinTokens, List.reverse_append, List.reverse_cons, List.append_assoc, List.cons_append,
        List.nil_append]

theorem drain_group {separator : Token} {empty : Bool} {parts : List Filter}
    (each : ∀ f ∈ canonicalOrder parts, Settles s t f) (rest : List (Frame Token))
    (written : List Token) :
    drain s t (groupFrames (tokenScript s t) separator empty parts ++ rest) written =
      groupTokens separator empty <$> (canonicalOrder parts).mapM (nestedTokens s t) >>= fun ts =>
        drain s t rest (ts.reverse ++ written) := by
  by_cases none : parts = []
  · subst none
    exact drain_piece (.truth empty) rest written
  · have some_part : canonicalOrder parts ≠ [] := by
      intro ordered
      have same := canonicalOrder_perm parts
      rw [ordered] at same
      exact none same.nil_eq.symm
    obtain ⟨f, more, ordered⟩ := List.exists_cons_of_ne_nil some_part
    rw [groupFrames, if_neg (by simpa using none), List.cons_append, drain_piece, List.append_assoc,
      drain_separated each, ordered]
    simp [groupTokens, drain_piece, tokenScript]

theorem drain_part (f : Filter) : Settles s t f := by
  -- The frames behind the part stay general: a group leaves its separators and later parts there.
  induction f using nestedTokens.induct with
  | case1 parts ih =>
    intro rest written
    rw [drain, drainWith, nestedTokens_all]
    exact drain_group (fun f member => ih ⟨f, member⟩) rest written
  | case2 parts ih =>
    intro rest written
    rw [drain, drainWith, nestedTokens_any]
    exact drain_group (fun f member => ih ⟨f, member⟩) rest written
  | case3 part ih =>
    intro rest written
    rw [drain, drainWith, ← drain, drain_piece, ih, nestedTokens]
    simp [tokenScript]
  | case4 =>
    intro rest written
    rw [drain, drainWith, nestedTokens]
    rfl
  | case5 c =>
    intro rest written
    rw [drain, drainWith_leaf, nestedTokens]
    change Token.leaf <$> c.leaf s t >>= _ = _
    cases c.leaf s t with
    | error e => rfl
    | ok l => rfl

theorem tokens_eq_nested (f : Filter) : f.tokens s t = nestedTokens s t f := by
  unfold tokens
  rw [drain_part f]
  cases nestedTokens s t f with
  | error e => rfl
  | ok ts =>
    change drain s t [] (ts.reverse ++ []) = .ok ts
    simp [drain, drainWith]

end Drain

end Lateral.Filter
