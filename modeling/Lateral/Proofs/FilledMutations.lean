import Lateral.Mutation.Writer
import Lateral.Proofs.FilledTemplates

/-!
The parts of a mutation that are written with the bindings at hand are its commands, each filled in
with them.
-/

namespace Lateral
open Outcome

variable {b : Bindings}

theorem Source.write_eq_fill (column : Column) (source : Source) :
    source.write b column = (source.sql column).fill b := by
  cases source with
  | preset value => exact value.writeTyped_eq_fill column.sqlType
  | payload | related | null => exact (Template.fill_text _).symm

theorem writeSources_eq_fill (columns : List Assignment) :
    writeSources b columns = (sourceList columns).fill b := by
  rw [writeSources, sourceList, Template.fill_join, List.map_map]
  refine congrArg (String.intercalate ", ") (List.map_congr_left fun a _ => ?_)
  exact a.source.write_eq_fill a.column

theorem writeCte_eq_fill (name : String) (command : Command) :
    writeCte name (command.sql.fill b) = (Cte.sql ⟨name, command⟩).fill b := by
  simp only [writeCte, Cte.sql, Template.fill_append, Template.fill_text]

namespace Mutation.Context

variable {ctx : Context}

theorem writeRootFilter_eq_fill (operation : Operation) :
    ctx.writeRootFilter b operation = Template.fill b <$> ctx.rootFilter operation := by
  unfold writeRootFilter rootFilter
  cases ctx.root.filter with
  | none => rfl
  | some f => exact f.write_eq_fill

theorem writeConflict_eq_fill (columns : List Assignment) :
    ctx.writeConflict b columns = (Template.fill b ·.sql) <$> ctx.conflict columns := by
  unfold writeConflict conflict
  cases ctx.conflictTargets columns with
  | error e => rfl
  | ok targets =>
    have unnarrowed (updates : List Column) :
        " ON CONFLICT (" ++ columnList targets ++ ")" ++ "" ++ resolution updates =
          (Conflict.sql ⟨targets, none, updates⟩).fill b := by
      simp only [Conflict.sql, Template.fill_append, Template.fill_text]
      rfl
    have narrowed (f : Filter) (updates : List Column) :
        (do return " ON CONFLICT (" ++ columnList targets ++ ")" ++
          (← (" WHERE " ++ ·) <$> f.write b ctx.schema ctx.table) ++ resolution updates) =
        (Template.fill b ·.sql) <$> (do
          return Conflict.mk targets (← some <$> f.sql ctx.schema ctx.table) updates) := by
      rw [f.write_eq_fill]
      cases f.sql ctx.schema ctx.table with
      | error e => rfl
      | ok text =>
        refine congrArg Except.ok ?_
        simp only [Conflict.sql, Template.fill_append, Template.fill_text]
    cases ctx.root.filter with
    | none => exact congrArg Except.ok (unnarrowed _)
    | some f =>
      cases f with
      | never => exact congrArg Except.ok (unnarrowed _)
      | _ => exact narrowed _ _

theorem writeReach_eq_fill (word : String) (r : Rows) (parent : Option Rows) :
    ctx.writeReach b word r parent = (fun reach => (reach.sql word).fill b) <$>
      ctx.reach r parent := by
  unfold writeReach reach
  have root : (do return " WHERE " ++ (← ctx.writeRootFilter b .update)) =
      (fun reach => (reach.sql word).fill b) <$>
        (do return Reach.filtered (← ctx.rootFilter .update) : Except Error Reach) := by
    rw [writeRootFilter_eq_fill]
    cases ctx.rootFilter .update with
    | error e => rfl
    | ok f =>
      refine congrArg Except.ok ?_
      simp only [Reach.sql, Template.fill_append, Template.fill_text]
  cases r.edge with
  | none => exact root
  | some e =>
    cases parent with
    | none => exact root
    | some p =>
      cases r.filter with
      | none =>
        refine congrArg Except.ok ?_
        simp only [Reach.sql, Reach.relatedSql, Template.fill_append, Template.fill_text]
      | some f =>
        dsimp only
        rw [f.write_eq_fill]
        cases f.sql ctx.schema r.table with
        | error e => rfl
        | ok text =>
          refine congrArg Except.ok ?_
          simp only [Reach.sql, Reach.relatedSql, Template.fill_append, Template.fill_text,
            String.append_assoc]

theorem writeUpdate_eq_fill (r : Rows) (parent : Option Rows) (columns : List Assignment) :
    ctx.writeUpdate b r parent columns = List.map (Template.fill b ·.sql) <$>
      ctx.update r parent columns := by
  unfold writeUpdate update
  dsimp only
  rw [writeReach_eq_fill, writeReach_eq_fill]
  cases ctx.reach r parent with
  | error e => split <;> rfl
  | ok reach =>
    split
    · refine congrArg Except.ok ?_
      simp only [List.map_cons, List.map_nil, ← writeCte_eq_fill, Command.sql,
        Template.fill_append, Template.fill_text]
    · refine congrArg Except.ok ?_
      simp only [List.map_cons, List.map_nil, ← writeCte_eq_fill, Command.sql,
        Template.fill_append, Template.fill_text, writeSources_eq_fill]

theorem insertion_eq_fill (r : Rows) (columns : List Assignment) (text : String)
    (conflict : Option Conflict)
    (same : text = Template.fill b ((conflict.map Conflict.sql).getD [])) (blocked : Bool) :
    writeCte r.table.name ("INSERT INTO " ++ Sql.name r.table.name ++ " (" ++
      columnList (columns.map Assignment.column) ++ ") SELECT " ++ writeSources b columns ++
      " FROM " ++ (input r).sql columns ++ (if blocked then " WHERE false" else "") ++
      text ++ " RETURNING *") =
    (Cte.sql ⟨r.table.name,
      .insert r.table.name columns (input r) blocked conflict⟩).fill b := by
  subst same
  simp only [← writeCte_eq_fill, Command.sql, Template.fill_append, Template.fill_text,
    writeSources_eq_fill]

theorem crossing_eq_fill (name : String) (c : Crossing) :
    writeCte name c.addSql = (Cte.sql ⟨name, .cross c⟩).fill b := by
  rw [← writeCte_eq_fill, Command.sql, Template.fill_text]

theorem writeInsert_eq_fill (r : Rows) (parent : Option Rows) (columns : List Assignment) :
    ctx.writeInsert b r parent columns = List.map (Template.fill b ·.sql) <$>
      ctx.insert r parent columns := by
  have unarbitrated := insertion_eq_fill (b := b) r columns "" none rfl
  unfold writeInsert insert
  cases columns.isEmpty with
  | true => rfl
  | false =>
    -- Only rows with a parent cross a junction, and only rows without one may meet a conflict.
    cases parent with
    | some p =>
      have unblocked := unarbitrated false
      simp only [Bool.false_eq_true, if_false] at unblocked
      simp only [Option.isNone_some, Bool.false_and, Bool.false_eq_true, if_false, pure_bind,
        unblocked, crossing_eq_fill (b := b)]
      cases r.edge with
      | none => rfl
      | some e =>
        dsimp only
        cases crossing? e p.table.name r.table.name <;> rfl
    | none =>
      cases decide (r.kind = .upsert) with
      | true =>
        simp only [Option.isNone_none, Bool.true_and, Bool.false_eq_true, if_true, if_false]
        rw [writeConflict_eq_fill]
        cases ctx.conflict columns with
        | error e => rfl
        | ok conflict =>
          have found : Except.ok conflict = (pure conflict : Except Error Conflict) := rfl
          simp only [found, map_pure, pure_bind]
          rw [insertion_eq_fill r columns (Template.fill b conflict.sql) (some conflict) rfl]
          cases r.edge <;> rfl
      | false =>
        simp only [Option.isNone_none, Bool.true_and, Bool.false_eq_true, if_false, pure_bind]
        rw [unarbitrated]
        cases r.edge <;> rfl

theorem writeLink_eq_fill (g : LinkGroup) (owner : Rows) (l : Link) :
    ctx.writeLink b g owner l = List.map (Template.fill b ·.sql) <$> ctx.link g owner l := by
  unfold writeLink link
  dsimp only
  rw [l.filter.write_eq_fill]
  cases g.edge.kind with
  | remote => rfl
  | oneToMany =>
    cases l.filter.sql ctx.schema g.table with
    | error e => rfl
    | ok filter =>
      cases l.kind with
      | connect =>
        refine congrArg Except.ok ?_
        simp only [List.map_cons, List.map_nil, ← writeCte_eq_fill, Command.sql,
          Template.fill_append, Template.fill_text, String.append_assoc]
      | disconnect =>
        refine congrArg Except.ok ?_
        simp only [List.map_cons, List.map_nil, ← writeCte_eq_fill, Command.sql,
          Template.fill_append, Template.fill_text, String.append_assoc]
  | oneToOne =>
    cases l.filter.sql ctx.schema g.table with
    | error e => rfl
    | ok filter =>
      refine congrArg Except.ok ?_
      simp only [List.map_cons, List.map_nil, ← writeCte_eq_fill, Command.sql,
        Template.fill_append, Template.fill_text, if_true]
  | through j =>
    cases l.filter.sql ctx.schema g.table with
    | error e => rfl
    | ok filter =>
      refine congrArg Except.ok ?_
      simp only [List.map_cons, List.map_nil, ← writeCte_eq_fill, Command.sql,
        Template.fill_append, Template.fill_text, Bool.false_eq_true, if_false,
        String.append_empty]
      cases l.kind with
      | connect => simp only [Template.fill_text]
      | disconnect => simp only [Template.fill_text]

theorem writeStep_eq_fill (step : Step) :
    ctx.writeStep b step = List.map (Template.fill b ·.sql) <$> ctx.step step := by
  cases step with
  | rows r parent children =>
    unfold writeStep Context.step
    dsimp only
    cases r.kind with
    | insert | upsert => exact writeInsert_eq_fill r parent _
    | update => exact writeUpdate_eq_fill r parent _
  | link g owner l => exact writeLink_eq_fill g owner l
  | union g =>
    refine congrArg Except.ok ?_
    simp only [List.map_cons, List.map_nil, ← writeCte_eq_fill, Command.sql, Template.fill_text]

theorem writeJunctions_eq_fill (steps : List Step) :
    writeJunctions steps = List.map (Template.fill b ·.sql) <$> settleAll steps := by
  unfold writeJunctions settleAll
  rw [← mapM_map_result]
  refine mapM_congr fun junction _ => ?_
  split
  · rfl
  · refine congrArg Except.ok ?_
    simp only [settle, ← writeCte_eq_fill, Command.sql, Template.fill_text]

/-- The parts of a mutation are written as its commands are filled in, or refused for the same
reason. -/
theorem writeParts_eq_fill (payload : String) (chain : Chain) :
    ctx.writeParts b payload chain = List.map (Template.fill b ·.sql) <$>
      ctx.ctes payload chain := by
  unfold writeParts ctes
  rw [funext (@writeStep_eq_fill b ctx), mapM_map_result,
    writeJunctions_eq_fill (b := b)]
  cases chain.steps.mapM ctx.step with
  | error e => rfl
  | ok rows =>
    change (_ <$> settleAll chain.steps >>= _) = _ <$> (settleAll chain.steps >>= _)
    cases settleAll chain.steps with
    | error e => rfl
    | ok junctions =>
      refine congrArg Except.ok ?_
      simp only [List.map_cons, List.map_append, List.map_flatten, ← writeCte_eq_fill, Command.sql,
        Template.fill_text]

theorem writeDeletion_eq_fill :
    ctx.writeDeletion b = (Template.fill b ·.sql) <$> ctx.deletion := by
  unfold writeDeletion deletion
  rw [writeRootFilter_eq_fill]
  cases ctx.rootFilter .delete with
  | error e => rfl
  | ok filter =>
    refine congrArg Except.ok ?_
    simp only [← writeCte_eq_fill, Command.sql, Template.fill_append, Template.fill_text]

end Mutation.Context

end Lateral
