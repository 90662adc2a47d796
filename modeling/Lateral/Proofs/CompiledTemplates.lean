import Lateral.Compiler
import Lateral.Proofs.FilledMutations
import Lateral.Proofs.FilledQueries

/-!
Statements as templates. A template is worked out without the value of any variable but the data of
a mutation, and every statement is its template filled in.
-/

namespace Lateral
open Outcome

namespace Compiler

def queryTemplate (c : Compiler) (r : Request) : Except Error (Template × SkipMask) :=
  (c.queryContext r none).compile

def withRead (c : Compiler) (r : Request) (root : Nat) (ctes : List Cte) :
    Except Error (Template × SkipMask) := do
  let (read, skipped) ← (c.queryContext r (some root)).compile
  return ("WITH " ++ Template.join ", " (ctes.map Cte.sql) ++ " " ++ read, skipped)

def writeTemplate (c : Compiler) (ctx : Mutation.Context) (r : Request) (root : Nat)
    (kind : RowKind) (given : Variables) : Except Error (Template × SkipMask) := do
  let (name, value) ← payload r given
  let chain ← Mutation.build c.schema kind ctx.table value
  c.withRead r root (← ctx.ctes name chain)

def mutationTemplate (c : Compiler) (r : Request) (given : Variables) :
    Except Error (Template × SkipMask) := do
  let (id, ctx) ← c.mutationRoot r
  match r.operation with
  | .query => c.queryTemplate r
  | .delete => c.withRead r id [← ctx.deletion]
  | .insert => c.writeTemplate ctx r id .insert given
  | .upsert => c.writeTemplate ctx r id .upsert given
  | .update => c.writeTemplate ctx r id .update given

def finish (c : Compiler) (given : Variables) (compiled : Template × SkipMask) : Statement :=
  ⟨compiled.1.fill (c.bindings given), compiled.2⟩

variable (c : Compiler) (r : Request) (given : Variables)

theorem read_eq_template (absorbed : Option Nat) :
    c.read r absorbed given = c.finish given <$> (c.queryContext r absorbed).compile := by
  unfold read
  rw [Query.Context.write_eq_fill]
  cases (c.queryContext r absorbed).compile with
  | error e => rfl
  | ok made => rfl

theorem compileQuery_eq_template :
    c.compileQuery r given = c.finish given <$> c.queryTemplate r :=
  c.read_eq_template r given none

theorem readAfter_eq_template (root : Nat) (ctes : List Cte) :
    c.readAfter r root given (ctes.map (Template.fill (c.bindings given) ·.sql)) =
      c.finish given <$> c.withRead r root ctes := by
  unfold readAfter withRead
  rw [read_eq_template]
  cases (c.queryContext r (some root)).compile with
  | error e => rfl
  | ok made =>
    refine congrArg Except.ok (congrArg (Statement.mk · made.2) ?_)
    simp only [Template.fill_append, Template.fill_text, Template.fill_join, List.map_map]
    rfl

theorem writeRows_eq_template (ctx : Mutation.Context) (root : Nat) (kind : RowKind) :
    c.writeRows ctx r root kind given =
      c.finish given <$> c.writeTemplate ctx r root kind given := by
  unfold writeRows writeTemplate
  cases payload r given with
  | error e => rfl
  | ok loaded =>
    change (Mutation.build c.schema kind ctx.table loaded.2 >>= _) =
      _ <$> (Mutation.build c.schema kind ctx.table loaded.2 >>= _)
    cases Mutation.build c.schema kind ctx.table loaded.2 with
    | error e => rfl
    | ok chain =>
      change (ctx.writeParts (c.bindings given) loaded.1 chain >>= _) =
        _ <$> (ctx.ctes loaded.1 chain >>= _)
      rw [Mutation.Context.writeParts_eq_fill]
      cases ctx.ctes loaded.1 chain with
      | error e => rfl
      | ok ctes => exact c.readAfter_eq_template r given root ctes

theorem compileMutation_eq_template :
    c.compileMutation r given = c.finish given <$> c.mutationTemplate r given := by
  unfold compileMutation mutationTemplate
  cases c.mutationRoot r with
  | error e => rfl
  | ok found =>
    obtain ⟨id, ctx⟩ := found
    dsimp only [bind, Except.bind]
    cases r.operation with
    | query => exact c.compileQuery_eq_template r given
    | delete =>
      dsimp only
      rw [Mutation.Context.writeDeletion_eq_fill]
      cases ctx.deletion with
      | error e => rfl
      | ok cte => exact c.readAfter_eq_template r given id [cte]
    | insert => exact c.writeRows_eq_template r given ctx id .insert
    | upsert => exact c.writeRows_eq_template r given ctx id .upsert
    | update => exact c.writeRows_eq_template r given ctx id .update

variable {c r given}

theorem compileQuery_eq_ok {statement : Statement} :
    c.compileQuery r given = .ok statement ↔
      ∃ made, c.queryTemplate r = .ok made ∧ c.finish given made = statement := by
  rw [compileQuery_eq_template, map_eq_ok]

theorem compileMutation_eq_ok {statement : Statement} :
    c.compileMutation r given = .ok statement ↔
      ∃ made, c.mutationTemplate r given = .ok made ∧ c.finish given made = statement := by
  rw [compileMutation_eq_template, map_eq_ok]

end Compiler

end Lateral
