import Lateral.Proofs.FilledTemplates
import Lateral.Query.Writer

/-!
A query that is written with the bindings at hand is its template filled in with them: part by part
for a row source, and event by event for the walk over the selections.
-/

namespace Lateral.Query
open Outcome

section Parts

variable {b : Bindings}

theorem Search.write_eq_fill (s : Search) : s.write b = s.sql.fill b := by
  simp only [Search.write, Search.sql, Template.fill_append, Template.fill_text,
    Argument.write_eq_fill]

theorem Output.write_eq_fill (search : Search) (table : String) (o : Output) :
    o.write b search table = (o.sql search table).fill b := by
  cases o <;>
    simp only [Output.sql, Template.fill_append, Template.fill_text, ← Search.write_eq_fill] <;>
    rfl

theorem writeCount_eq_fill (word : String) (count : Option Argument) :
    writeCount b word count = (countClause word count).fill b := by
  cases count with
  | none => rfl
  | some a =>
    simp only [writeCount, countClause, Template.fill_append, Template.fill_text,
      Argument.writeInteger_eq_fill]

theorem writeWhere_eq_fill (restrictions : List Restriction) :
    writeWhere (restrictions.map (Template.fill b ·.sql)) = (whereSql restrictions).fill b := by
  match restrictions with
  | [] => rfl
  | [r] => simp only [List.map_cons, List.map_nil, writeWhere, whereSql, Template.fill_append,
      Template.fill_text]
  | r :: q :: rest =>
    simp only [List.map_cons, writeWhere, whereSql, Template.fill_append, Template.fill_text,
      Template.fill_join, List.map_map]
    rfl

end Parts

namespace Context

variable {ctx : Context} {b : Bindings}

theorem writeFilters_eq_fill (t : Table) (filters : List Filter) :
    filters.mapM (Filter.write b ctx.schema t) = List.map (Template.fill b ·.sql) <$>
      filterRestrictions ctx.schema t filters := by
  rw [filterRestrictions, ← mapM_map_result]
  refine mapM_congr fun f _ => ?_
  rw [Filter.write_eq_fill, Filter.sql]
  cases f.tokens ctx.schema t with
  | error e => rfl
  | ok tokens => rfl

theorem writeCursor_eq_fill (p : Plan) (key : Column) (value : Argument) :
    writeCursor b p key value = Template.fill b
      (Restriction.cursor ⟨p.table.name, key.name⟩ (isBackward p.selection) value
        key.sqlType).sql := by
  simp only [writeCursor, Restriction.sql, Template.fill_append, Template.fill_text,
    Argument.writeTyped_eq_fill]

theorem writeConditions_eq_fill (p : Plan) :
    ctx.writeConditions b p = List.map (Template.fill b ·.sql) <$>
      ctx.restrictions p.selection p.table p.parent p.cursor := by
  have related : p.parent.toList.map (fun q => (Sql.edgeCondition q.edge q.source).sql) =
      (p.parent.toList.map fun q => Restriction.related (Sql.edgeCondition q.edge q.source)).map
        (Template.fill b ·.sql) := by
    rw [List.map_map]
    exact List.map_congr_left fun q _ => (Template.fill_text _).symm
  unfold writeConditions restrictions
  rw [related]
  split
  · rfl
  · rw [writeFilters_eq_fill]
    cases filterRestrictions ctx.schema p.table p.selection.filter.toList with
    | error e => rfl
    | ok filter =>
      refine congrArg Except.ok ?_
      simp only [List.map_append, List.append_cancel_left_eq]
      cases p.cursor with
      | none => rfl
      | some key =>
        cases p.selection.paging.cursor with
        | none => rfl
        | some value => exact congrArg (List.cons · []) (writeCursor_eq_fill p key (.ofText value))

theorem writeBase_eq_fill (p : Plan) :
    ctx.writeBase b p = (fun kept => (p.base ctx kept).sql.fill b) <$>
      ctx.restrictions p.selection p.table p.parent p.cursor := by
  unfold writeBase
  rw [writeConditions_eq_fill]
  cases ctx.restrictions p.selection p.table p.parent p.cursor with
  | error e => rfl
  | ok kept =>
    refine congrArg Except.ok ?_
    have outputs : (p.outputs.map (Output.sql (ctx.search p.selection) p.table.name)).map
        (Template.fill b) =
        p.outputs.map (Output.write b (ctx.search p.selection) p.table.name) := by
      rw [List.map_map]
      exact List.map_congr_left fun o _ => (o.write_eq_fill _ _).symm
    rw [writeWhere_eq_fill, writeCount_eq_fill, writeCount_eq_fill, ← outputs]
    simp only [BaseSource.sql, Template.fill_append, Template.fill_text, Template.fill_join]
    rfl

end Context

namespace Progress

variable (b : Bindings)

def pass (p : Progress) : Event → Progress
  | .enter n => p.opened n.toHead (n.base.sql.fill b) n.remote
  | .leave n => p.closed n.toHead

theorem pass_text (p : Progress) (events : List Event) :
    (events.foldl (pass b) p).text = p.text ++ (Context.eventsSql p.left events).fill b := by
  induction events generalizing p with
  | nil => simp [Context.eventsSql, Template.fill]
  | cons event rest ih =>
    rw [List.foldl_cons, ih]
    cases event with
    | enter n =>
      simp only [pass, opened, Context.eventsSql, Node.openSql, Template.fill_append,
        Template.fill_text, String.append_assoc]
    | leave n =>
      simp only [pass, closed, Context.eventsSql]
      split
      · simp only [Template.fill_append, Template.fill_text, String.append_assoc]
      · simp only [Template.fill_append, Template.fill_text, String.append_assoc]

theorem pass_skipped (p : Progress) (events : List Event) :
    (events.foldl (pass b) p).skipped = (events.flatMap fun
      | .enter n => n.remote
      | .leave _ => []).foldl SkipMask.insert p.skipped := by
  induction events generalizing p with
  | nil => rfl
  | cons event rest ih =>
    rw [List.foldl_cons, ih, List.flatMap_cons, List.foldl_append]
    cases event with
    | enter n => rfl
    | leave n =>
      simp only [pass, closed]
      split
      · rfl
      · rfl

end Progress

namespace Context

variable {ctx : Context} {b : Bindings}

theorem writeEach_eq {depth : Nat}
    (each : ∀ (p : Progress) (id : Nat), ctx.writeSelection b depth p id =
      (fun events => events.foldl (Progress.pass b) p) <$> ctx.walk depth id)
    (p : Progress) (ids : List Nat) :
    ids.foldlM (ctx.writeSelection b depth) p =
      (fun walks => walks.flatten.foldl (Progress.pass b) p) <$> ids.mapM (ctx.walk depth) := by
  induction ids generalizing p with
  | nil => rfl
  | cons id rest ih =>
    rw [List.foldlM_cons, List.mapM_cons, each]
    cases ctx.walk depth id with
    | error e => rfl
    | ok events =>
      change rest.foldlM _ _ = _ <$> (rest.mapM (ctx.walk depth) >>= _)
      rw [ih]
      cases rest.mapM (ctx.walk depth) with
      | error e => rfl
      | ok walks =>
        refine congrArg Except.ok ?_
        simp only [List.flatten_cons, List.foldl_append]

theorem writeSelection_eq (depth : Nat) (p : Progress) (id : Nat) :
    ctx.writeSelection b depth p id =
      (fun events => events.foldl (Progress.pass b) p) <$> ctx.walk depth id := by
  induction depth generalizing p id with
  | zero => rfl
  | succ depth ih =>
    unfold writeSelection walk node
    cases ctx.plan id with
    | error e => rfl
    | ok plan =>
      change (ctx.writeBase b plan >>= _) = _ <$> ((ctx.restrictions _ _ _ _ >>= _) >>= _)
      rw [writeBase_eq_fill]
      cases ctx.restrictions plan.selection plan.table plan.parent plan.cursor with
      | error e => rfl
      | ok kept =>
        change (plan.joined.foldlM _ _ >>= _) = _ <$> (plan.joined.mapM (ctx.walk depth) >>= _)
        rw [writeEach_eq ih]
        cases plan.joined.mapM (ctx.walk depth) with
        | error e => rfl
        | ok inner =>
          refine congrArg Except.ok ?_
          simp only [List.foldl_cons, List.foldl_append, List.foldl_nil]
          rfl

/-- A query is written as its template is filled in, or refused for the same reason. -/
theorem write_eq_fill :
    ctx.write b = (fun made => (made.1.fill b, made.2)) <$> ctx.compile := by
  unfold write compile events
  cases ctx.roots with
  | error e => rfl
  | ok roots =>
    change (ctx.request.roots.foldlM _ _ >>= _) =
      _ <$> ((ctx.request.roots.mapM (ctx.walk ctx.request.selections.length) >>= _) >>= _)
    rw [writeEach_eq (writeSelection_eq _)]
    cases ctx.request.roots.mapM (ctx.walk ctx.request.selections.length) with
    | error e => rfl
    | ok walks =>
      refine congrArg Except.ok ?_
      simp only [Progress.pass_text, Progress.pass_skipped, Template.fill_append,
        Template.fill_text]
      rfl

end Context

end Lateral.Query
