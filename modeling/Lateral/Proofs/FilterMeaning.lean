import Lateral.Proofs.FilledTemplates
import Lateral.Proofs.FilterRecursion
import Lateral.Proofs.Phrases

/-!
What the tokens of a filter mean. They are read as a condition is read, a negation before a
conjunction and a conjunction before a disjunction. The formula that is read has the value of the
filter under any truth values of its conditions, and it is an operand: a primary after negations, so
it can stand beside other conditions without parentheses of its own.
-/

namespace Lateral

inductive Truth where
  | no
  | unknown
  | yes
  deriving DecidableEq, Repr

namespace Truth

def ofBool : Bool → Truth
  | true => .yes
  | false => .no

def not : Truth → Truth
  | .no => .yes
  | .unknown => .unknown
  | .yes => .no

def and : Truth → Truth → Truth
  | .no, _ | _, .no => .no
  | .unknown, _ | _, .unknown => .unknown
  | .yes, .yes => .yes

def or : Truth → Truth → Truth
  | .yes, _ | _, .yes => .yes
  | .unknown, _ | _, .unknown => .unknown
  | .no, .no => .no

end Truth

inductive Connective where
  | and
  | or
  deriving DecidableEq, Repr

namespace Connective

def token : Connective → Token
  | .and => .and
  | .or => .or

def unit : Connective → Bool
  | .and => true
  | .or => false

def apply : Connective → Truth → Truth → Truth
  | .and => Truth.and
  | .or => Truth.or

theorem apply_unit (c : Connective) (a : Truth) : c.apply a (.ofBool c.unit) = a := by
  cases c <;> cases a <;> rfl

theorem apply_left_comm (c : Connective) (a b d : Truth) :
    c.apply a (c.apply b d) = c.apply b (c.apply a d) := by
  cases c <;> cases a <;> cases b <;> cases d <;> rfl

end Connective

namespace Filter

mutual

def value (assign : Condition → Truth) : Filter → Truth
  | .all parts => groupValue assign .and parts
  | .any parts => groupValue assign .or parts
  | .not part => (value assign part).not
  | .never => .no
  | .leaf c => assign c

def groupValue (assign : Condition → Truth) (c : Connective) : List Filter → Truth
  | [] => .ofBool c.unit
  | part :: rest => c.apply (value assign part) (groupValue assign c rest)

end

theorem groupValue_perm {assign : Condition → Truth} {c : Connective} {parts others : List Filter}
    (same : parts.Perm others) : groupValue assign c parts = groupValue assign c others := by
  induction same with
  | nil => rfl
  | cons f _ ih => simp only [groupValue, ih]
  | swap f g rest => exact c.apply_left_comm _ _ _
  | trans _ _ first second => exact first.trans second

end Filter

inductive Formula (α : Type) where
  | truth (value : Bool)
  | atom (a : α)
  | not (g : Formula α)
  | join (c : Connective) (g h : Formula α)
  deriving DecidableEq, Repr

namespace Formula

def eval {α : Type} (assign : α → Truth) : Formula α → Truth
  | .truth value => .ofBool value
  | .atom a => assign a
  | .not g => (eval assign g).not
  | .join c g h => c.apply (eval assign g) (eval assign h)

/-- The same formula over related atoms. -/
inductive Over {α β : Type} (R : α → β → Prop) : Formula α → Formula β → Prop where
  | truth (value : Bool) : Over R (.truth value) (.truth value)
  | atom {a : α} {b : β} (related : R a b) : Over R (.atom a) (.atom b)
  | not {g : Formula α} {g' : Formula β} (inner : Over R g g') : Over R (.not g) (.not g')
  | join {c : Connective} {g h : Formula α} {g' h' : Formula β} (left : Over R g g')
      (right : Over R h h') : Over R (.join c g h) (.join c g' h')

end Formula

namespace Reading

abbrev Shorter (ts : List Token) := { rest : List Token // rest.length < ts.length }

mutual

def disjunction (ts : List Token) : Option (Formula Leaf × Shorter ts) :=
  match conjunction ts with
  | some (g, ⟨.or :: more, less⟩) =>
    match disjunction more with
    | some (h, ⟨rest, fewer⟩) =>
      some (.join .or g h, ⟨rest, by simp only [List.length_cons] at less; omega⟩)
    | none => none
  | taken => taken
termination_by (ts.length, 3)
decreasing_by
  · decreasing_tactic
  · simp only [List.length_cons] at less
    exact Prod.Lex.left _ _ (by omega)

def conjunction (ts : List Token) : Option (Formula Leaf × Shorter ts) :=
  match operand ts with
  | some (g, ⟨.and :: more, less⟩) =>
    match conjunction more with
    | some (h, ⟨rest, fewer⟩) =>
      some (.join .and g h, ⟨rest, by simp only [List.length_cons] at less; omega⟩)
    | none => none
  | taken => taken
termination_by (ts.length, 2)
decreasing_by
  · decreasing_tactic
  · simp only [List.length_cons] at less
    exact Prod.Lex.left _ _ (by omega)

/-- A primary after any number of negations. -/
def operand (ts : List Token) : Option (Formula Leaf × Shorter ts) :=
  match ts with
  | .not :: more =>
    match operand more with
    | some (g, ⟨rest, fewer⟩) =>
      some (.not g, ⟨rest, by simp only [List.length_cons]; omega⟩)
    | none => none
  | ts => primary ts
termination_by (ts.length, 1)

/-- A constant, a condition, or a disjunction in parentheses. -/
def primary (ts : List Token) : Option (Formula Leaf × Shorter ts) :=
  match ts with
  | .truth value :: rest => some (.truth value, ⟨rest, by simp⟩)
  | .leaf l :: rest => some (.atom l, ⟨rest, by simp⟩)
  | .leftParen :: more =>
    match disjunction more with
    | some (g, ⟨.rightParen :: rest, less⟩) =>
      some (g, ⟨rest, by simp only [List.length_cons] at less ⊢; omega⟩)
    | _ => none
  | _ => none
termination_by (ts.length, 0)

end

/-- A reader takes a formula from the front of the tokens and leaves the rest. -/
def Takes {ts : List Token} (taken : Option (Formula Leaf × Shorter ts)) (g : Formula Leaf)
    (rest : List Token) : Prop :=
  ∃ less, taken = some (g, ⟨rest, less⟩)

variable {ts more rest : List Token} {g h : Formula Leaf}

theorem primary_group (inner : Takes (disjunction more) g (.rightParen :: rest)) :
    Takes (primary (.leftParen :: more)) g rest := by
  obtain ⟨less, taken⟩ := inner
  rw [primary, taken]
  exact ⟨_, rfl⟩

theorem operand_not (inner : Takes (operand more) g rest) :
    Takes (operand (.not :: more)) (.not g) rest := by
  obtain ⟨less, taken⟩ := inner
  rw [operand, taken]
  exact ⟨_, rfl⟩

theorem operand_primary (alone : Takes (primary ts) g rest) : Takes (operand ts) g rest := by
  obtain ⟨less, taken⟩ := alone
  unfold operand
  split
  · rw [primary] at taken
    · cases taken
    all_goals simp
  · exact ⟨less, taken⟩

theorem conjunction_operand (last : Takes (operand ts) g rest) (ends : rest.head? ≠ some .and) :
    Takes (conjunction ts) g rest := by
  obtain ⟨less, taken⟩ := last
  rw [conjunction, taken]
  split
  · rename_i same
    cases same
    simp at ends
  · exact ⟨less, rfl⟩

theorem conjunction_and (first : Takes (operand ts) g (.and :: more))
    (others : Takes (conjunction more) h rest) : Takes (conjunction ts) (.join .and g h) rest := by
  obtain ⟨less, taken⟩ := first
  obtain ⟨fewer, left⟩ := others
  rw [conjunction, taken]
  simp only [left]
  exact ⟨_, rfl⟩

theorem disjunction_conjunction (last : Takes (conjunction ts) g rest)
    (ends : rest.head? ≠ some .or) : Takes (disjunction ts) g rest := by
  obtain ⟨less, taken⟩ := last
  rw [disjunction, taken]
  split
  · rename_i same
    cases same
    simp at ends
  · exact ⟨less, rfl⟩

theorem disjunction_or (first : Takes (conjunction ts) g (.or :: more))
    (others : Takes (disjunction more) h rest) : Takes (disjunction ts) (.join .or g h) rest := by
  obtain ⟨less, taken⟩ := first
  obtain ⟨fewer, left⟩ := others
  rw [disjunction, taken]
  simp only [left]
  exact ⟨_, rfl⟩

def chain (c : Connective) (ts : List Token) : Option (Formula Leaf × Shorter ts) :=
  match c with
  | .and => conjunction ts
  | .or => disjunction ts

theorem chain_last {c : Connective} (last : Takes (operand ts) g (.rightParen :: rest)) :
    Takes (chain c ts) g (.rightParen :: rest) := by
  have alone := conjunction_operand last (by simp)
  cases c with
  | and => exact alone
  | or => exact disjunction_conjunction alone (by simp)

theorem chain_more {c : Connective} (first : Takes (operand ts) g (c.token :: more))
    (others : Takes (chain c more) h rest) : Takes (chain c ts) (.join c g h) rest := by
  cases c with
  | and => exact conjunction_and first others
  | or => exact disjunction_or (conjunction_operand first (by simp)) others

theorem primary_chain {c : Connective} (inner : Takes (chain c more) g (.rightParen :: rest)) :
    Takes (primary (.leftParen :: more)) g rest := by
  cases c with
  | and => exact primary_group (disjunction_conjunction inner (by simp))
  | or => exact primary_group inner

inductive IsOperand : List Token → Formula Leaf → Prop where
  | primary {ts : List Token} {g : Formula Leaf}
      (alone : ∀ rest, Takes (primary (ts ++ rest)) g rest) : IsOperand ts g
  | not {ts : List Token} {g : Formula Leaf} (inner : IsOperand ts g) :
      IsOperand (.not :: ts) (.not g)

theorem IsOperand.takes (whole : IsOperand ts g) (rest : List Token) :
    Takes (operand (ts ++ rest)) g rest := by
  induction whole with
  | primary alone => exact operand_primary (alone rest)
  | not _ ih => exact operand_not ih

theorem IsOperand.whole (whole : IsOperand ts g) : Takes (disjunction ts) g [] := by
  have alone := whole.takes []
  rw [List.append_nil] at alone
  exact disjunction_conjunction (conjunction_operand alone (by simp)) (by simp)

end Reading

namespace Filter
open Outcome Reading

variable {s : Schema} {t : Table}

/-- Some formula over conditions has a value, and is read once every condition is written out. -/
def HasReading (s : Schema) (t : Table) (value : (Condition → Truth) → Truth)
    (reads : Formula Leaf → Prop) : Prop :=
  ∃ (g : Formula Condition) (read : Formula Leaf),
    g.Over (fun c l => c.leaf s t = .ok l) read ∧ reads read ∧
      ∀ assign, g.eval assign = value assign

def Means (s : Schema) (t : Table) (f : Filter) (ts : List Token) : Prop :=
  HasReading s t (fun assign => f.value assign) (IsOperand ts)

theorem chain_means {c : Connective} {f : Filter} {fs : List Filter} {ts : List Token}
    {texts : List (List Token)} (first : Means s t f ts)
    (others : List.Forall₂ (Means s t) fs texts) :
    HasReading s t (fun assign => groupValue assign c (f :: fs)) fun read => ∀ rest,
      Takes (chain c (joinTokens c.token (ts :: texts) ++ .rightParen :: rest)) read
        (.rightParen :: rest) := by
  induction others generalizing f ts with
  | nil =>
    obtain ⟨g, read, atoms, whole, same⟩ := first
    refine ⟨g, read, atoms, fun rest => chain_last (whole.takes _), ?_⟩
    intro assign
    simp only [groupValue, c.apply_unit, same]
  | @cons f' ts' fs texts next later ih =>
    obtain ⟨g, read, atoms, whole, same⟩ := first
    obtain ⟨h, others, later_atoms, reads, values⟩ := ih next
    refine ⟨.join c g h, .join c read others, .join atoms later_atoms, ?_, ?_⟩
    · -- The operand stops before the connective, whatever stands behind it.
      intro rest
      have front :=
        whole.takes (c.token :: (joinTokens c.token (ts' :: texts) ++ .rightParen :: rest))
      have split : joinTokens c.token (ts :: ts' :: texts) =
          ts ++ c.token :: joinTokens c.token (ts' :: texts) := rfl
      rw [split, List.append_assoc]
      exact chain_more front (reads rest)
    · intro assign
      simp only [Formula.eval, groupValue, same, values]

theorem group_means {c : Connective} {fs : List Filter} {texts : List (List Token)}
    (each : List.Forall₂ (Means s t) fs texts) :
    HasReading s t (fun assign => groupValue assign c fs)
      (IsOperand (groupTokens c.token c.unit texts)) := by
  cases each with
  | nil =>
    refine ⟨.truth c.unit, .truth c.unit, .truth c.unit, .primary ?_, fun assign => rfl⟩
    intro rest
    exact ⟨by simp [groupTokens], by simp [groupTokens, primary]⟩
  | @cons f ts fs texts first others =>
    obtain ⟨g, read, atoms, reads, values⟩ := chain_means (c := c) first others
    refine ⟨g, read, atoms, .primary ?_, values⟩
    intro rest
    have inner := primary_chain (reads rest)
    have split : groupTokens c.token c.unit (ts :: texts) ++ rest =
        .leftParen :: (joinTokens c.token (ts :: texts) ++ .rightParen :: rest) := by
      simp [groupTokens]
    rw [split]
    exact inner

theorem ordered_means {c : Connective} {parts : List Filter} {ts : List Token}
    (each : ∀ f ∈ canonicalOrder parts, ∀ ts, nestedTokens s t f = .ok ts → Means s t f ts)
    (run : groupTokens c.token c.unit <$> (canonicalOrder parts).mapM (nestedTokens s t) = .ok ts) :
    HasReading s t (fun assign => groupValue assign c parts) (IsOperand ts) := by
  obtain ⟨texts, made, rfl⟩ := map_eq_ok.mp run
  obtain ⟨g, read, atoms, whole, values⟩ := group_means (c := c) (mapM_forall each made)
  refine ⟨g, read, atoms, whole, ?_⟩
  intro assign
  exact (values assign).trans (groupValue_perm (canonicalOrder_perm parts))

theorem nestedTokens_means (f : Filter) {ts : List Token} (run : nestedTokens s t f = .ok ts) :
    Means s t f ts := by
  induction f using nestedTokens.induct generalizing ts with
  | case1 parts ih =>
    rw [nestedTokens_all] at run
    exact ordered_means (c := .and) (fun f member ts => ih ⟨f, member⟩) run
  | case2 parts ih =>
    rw [nestedTokens_any] at run
    exact ordered_means (c := .or) (fun f member ts => ih ⟨f, member⟩) run
  | case3 part ih =>
    rw [nestedTokens] at run
    obtain ⟨inner, made, rfl⟩ := map_eq_ok.mp run
    obtain ⟨g, read, atoms, whole, values⟩ := ih made
    refine ⟨.not g, .not read, .not atoms, .not whole, ?_⟩
    intro assign
    simp only [Formula.eval, value, values]
  | case4 =>
    rw [nestedTokens] at run
    cases run
    refine ⟨.truth false, .truth false, .truth false, .primary ?_, fun assign => rfl⟩
    intro rest
    exact ⟨by simp, by simp [primary]⟩
  | case5 c =>
    rw [nestedTokens] at run
    obtain ⟨l, made, rfl⟩ := map_eq_ok.mp run
    refine ⟨.atom c, .atom l, .atom made, .primary ?_, fun assign => rfl⟩
    intro rest
    exact ⟨by simp, by simp [primary]⟩

end Filter

/-- The text of a filter is that of its tokens. They are read as an operand, alone and before any
other tokens, whose value is that of the filter; every leaf that is read is a condition of it. -/
theorem tokens_mean_filter {s : Schema} {t : Table} {f : Filter} {ts : List Token}
    (written : f.tokens s t = .ok ts) :
    f.sql s t = .ok (ts.flatMap Token.sql) ∧
    (∀ b, f.write b s t = .ok (Sql.Phrase.text b (ts.flatMap Token.phrase))) ∧
    ∃ (g : Formula Condition) (read : Formula Leaf),
      g.Over (fun c l => c.leaf s t = .ok l) read ∧
      Reading.IsOperand ts read ∧
      (∀ rest, Reading.Takes (Reading.operand (ts ++ rest)) read rest) ∧
      Reading.Takes (Reading.disjunction ts) read [] ∧
      ∀ assign : Condition → Truth, g.eval assign = f.value assign := by
  have text : f.sql s t = .ok (ts.flatMap Token.sql) := by
    rw [Filter.sql, written]
    rfl
  have phrases (b : Bindings) :
      f.write b s t = .ok (Sql.Phrase.text b (ts.flatMap Token.phrase)) := by
    rw [Filter.write_eq_fill, text, Token.text_phrases]
    rfl
  rw [Filter.tokens_eq_nested] at written
  obtain ⟨g, read, atoms, whole, values⟩ := Filter.nestedTokens_means f written
  exact ⟨text, phrases, g, read, atoms, whole, whole.takes, whole.whole, values⟩

def valveTable : Table := .ofColumns "valves" "valve" .table
  [{ id := 1, name := "id", sqlType := "bigint", primaryKey := true },
    { id := 2, name := "mark", sqlType := "text" }]

def Condition.isMissing (column : String) : Condition := ⟨[], column, .isNull, .bool true⟩

def Leaf.isMissing (column : String) : Leaf := ⟨[], .nullness ⟨"valves", column⟩ true⟩

/-- The groups are nested, empty and of one part, and the conditions come last. -/
def unmarkedValves : Filter :=
  .not (.all [.any [], .not (.not (.any [.never])), .any [.leaf (.isMissing "mark"), .all []],
    .leaf (.isMissing "mark"), .leaf (.isMissing "id")])

def unmarkedTokens : List Token :=
  [.not, .leftParen, .leaf (.isMissing "id"), .and, .leaf (.isMissing "mark"), .and, .truth false,
    .and, .not, .not, .leftParen, .truth false, .rightParen, .and, .leftParen,
    .leaf (.isMissing "mark"), .or, .truth true, .rightParen, .rightParen]

theorem unmarkedTokens_mean_filter :
    unmarkedValves.tokens {} valveTable = .ok unmarkedTokens ∧
    (∀ b, unmarkedValves.write b {} valveTable =
      .ok (Sql.Phrase.text b (unmarkedTokens.flatMap Token.phrase))) ∧
    ∃ (g : Formula Condition) (read : Formula Leaf),
      g.Over (fun c l => c.leaf {} valveTable = .ok l) read ∧
      Reading.IsOperand unmarkedTokens read ∧
      Reading.Takes (Reading.disjunction unmarkedTokens) read [] ∧
      ∀ assign, g.eval assign = unmarkedValves.value assign := by
  have written : unmarkedValves.tokens {} valveTable = .ok unmarkedTokens := by decide +kernel
  obtain ⟨-, text, g, read, atoms, whole, -, all, values⟩ := tokens_mean_filter written
  exact ⟨written, text, g, read, atoms, whole, all, values⟩

end Lateral
