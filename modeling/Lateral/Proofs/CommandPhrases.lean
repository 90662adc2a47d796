import Lateral.Proofs.FilledMutations
import Lateral.Proofs.Phrases

/-!
The commands of a mutation taken apart. The rows that a command reads are those that its text names
in a list of rows: rows of other commands, the data, and tables as they are stored.
-/

namespace Lateral

open Sql

variable {b : Bindings}

def Sql.Phrase.names (names : List String) : Phrase := Phrase.commas (names.map fun n => [.label n])

theorem columnList_phrase (columns : List Column) :
    (Phrase.names (columns.map Column.name)).text b = columnList columns := by
  simp [Phrase.names, columnList, Function.comp_def]

def Source.phrase (column : Column) : Source → Phrase
  | .payload => [Part.column ⟨"t", column.name⟩]
  | .preset value => [Part.value (value.typed column.sqlType)]
  | .related c => [Part.column c]
  | .null => [Part.words "NULL"]

theorem Source.text_phrase (column : Column) (source : Source) :
    (source.phrase column).text b = (source.sql column).fill b := by
  cases source <;> simp [phrase, Source.sql, Template.fill_text]

def columnsPhrase (columns : List Assignment) : Phrase :=
  Phrase.names (columns.map fun a => a.column.name)

def valuesPhrase (columns : List Assignment) : Phrase :=
  Phrase.commas (columns.map fun a => a.source.phrase a.column)

theorem text_columnsPhrase (columns : List Assignment) :
    (columnsPhrase columns).text b = columnList (columns.map Assignment.column) := by
  rw [← columnList_phrase (b := b), List.map_map]
  rfl

theorem text_valuesPhrase (columns : List Assignment) :
    (valuesPhrase columns).text b = (sourceList columns).fill b := by
  rw [valuesPhrase, Phrase.text_commas, sourceList, Template.fill_join, List.map_map, List.map_map]
  refine congrArg (String.intercalate ", ") (List.map_congr_left fun a _ => ?_)
  exact a.source.text_phrase a.column

def Input.pathPhrase (path : List String) : Phrase :=
  path.flatMap fun key => [Part.words "->", .value (Text.quote key)]

theorem Input.text_pathPhrase (path : List String) : (Input.pathPhrase path).text b =
    String.join (path.map fun key => "->" ++ Text.quote key) := by
  simp [pathPhrase, Phrase.text_flatMap, Template.fill_text]

def Input.phrase (input : Input) (columns : List Assignment) : Phrase :=
  [Part.rows Input.name, .words " i, "] ++
    (distinct (columns.filterMap fun a => a.source.table?)).flatMap
      (fun t => [Part.rows t, .words ", "]) ++
    [Part.fixed (.either input.array ⟨"json_populate_recordset", Eq.refl true⟩
        ⟨"json_populate_record", Eq.refl true⟩),
      .words "(NULL::", .label input.table, .words ", i.j"] ++
    Input.pathPhrase input.path ++ [Part.words ") t"]

theorem Input.text_phrase (input : Input) (columns : List Assignment) :
    (input.phrase columns).text b = input.sql columns := by
  unfold phrase Input.sql
  simp [Phrase.text_flatMap, text_pathPhrase, String.append_assoc]

def resolutionPhrase (updates : List Column) : Phrase :=
  if updates.isEmpty then [Part.words " DO NOTHING"]
  else .words " DO UPDATE SET " :: Phrase.commas (updates.map fun u =>
    [Part.label u.name, .words " = EXCLUDED.", .label u.name])

theorem text_resolutionPhrase (updates : List Column) :
    (resolutionPhrase updates).text b = resolution updates := by
  unfold resolutionPhrase resolution
  cases updates.isEmpty <;> simp [Function.comp_def, String.append_assoc]

def Conflict.phrase (c : Conflict) : Phrase :=
  [Part.words " ON CONFLICT ("] ++ Phrase.names (c.targets.map Column.name) ++ [Part.words ")"] ++
    (c.filter.map fun f => [Part.words " WHERE ", .value f]).getD [] ++ resolutionPhrase c.updates

theorem Conflict.text_phrase (c : Conflict) : c.phrase.text b = c.sql.fill b := by
  unfold phrase Conflict.sql
  cases c.filter <;> simp [columnList_phrase, text_resolutionPhrase, Template.fill_append,
    Template.fill_text]

namespace Reach

def relatedPhrase (parent : String) (e : Edge) : Phrase :=
  match e.junction? with
  | some j =>
    [Part.rows j.table, .words ", ", .rows parent, .words " WHERE "] ++
      (Sql.edgeCondition e parent).phrase ++ [Part.words " AND "] ++
      (⟨⟨j.table, j.rightColumn⟩, ⟨parent, e.right.column⟩, false⟩ : Equation).phrase
  | none => [Part.rows parent, .words " WHERE "] ++ (Sql.edgeCondition e parent).phrase

theorem text_relatedPhrase (parent : String) (e : Edge) :
    (relatedPhrase parent e).text b = relatedRows parent e := by
  unfold relatedPhrase relatedRows
  cases e.junction? <;> simp [String.append_assoc]

def phrase (word : Words) : Reach → Phrase
  | .filtered f => [Part.words " WHERE ", .value f]
  | .related parent e filter =>
    .fixed word :: (relatedPhrase parent e ++
      (filter.map fun f => [Part.words " AND ", .value f]).getD [])

theorem text_phrase (word : Words) (reach : Reach) :
    (reach.phrase word).text b = (reach.sql word.text).fill b := by
  cases reach with
  | filtered f => simp [phrase, Reach.sql, Template.fill_append, Template.fill_text]
  | related parent e filter =>
    cases filter <;> simp [phrase, Reach.sql, relatedSql, text_relatedPhrase,
      Template.fill_append, Template.fill_text]

end Reach

namespace Crossing

def addPhrase (c : Crossing) : Phrase :=
  [Part.words "INSERT INTO ", .label c.junction.table, .words " (", .label c.junction.rightColumn,
    .words ", ", .label c.junction.leftColumn, .words ") SELECT ", .column c.parent, .words ", ",
    .column c.child, .words " FROM ", .rows c.parent.source, .words ", ", .rows c.child.source,
    .words " RETURNING *"]

theorem text_addPhrase (c : Crossing) : c.addPhrase.text b = c.addSql := by
  unfold addPhrase addSql
  simp [String.append_assoc]

def removePhrase (c : Crossing) : Phrase :=
  [Part.words "DELETE FROM ", .label c.junction.table, .words " USING ", .rows c.parent.source,
    .words ", ", .rows c.child.source, .words " WHERE "] ++ c.conditions.1.phrase ++
    [Part.words " AND "] ++ c.conditions.2.phrase ++
    [Part.words " RETURNING ", .label c.junction.table, .words ".*"]

theorem text_removePhrase (c : Crossing) : c.removePhrase.text b = c.removeSql := by
  unfold removePhrase removeSql
  simp [String.append_assoc]

end Crossing

def unionPhrase (parts : List String) : Phrase :=
  .separated (.words " UNION ALL ") (parts.map fun part => [.words "SELECT * FROM ", .rows part])

theorem text_unionPhrase (parts : List String) : (unionPhrase parts).text b = unionSql parts := by
  simp [unionPhrase, unionSql, Phrase.text_separated, Function.comp_def]

def notRemovedPhrase (junction : String) (removed : String × Junction) : Phrase :=
  [Part.words "NOT EXISTS (SELECT 1 FROM ", .rows removed.1, .words " WHERE "] ++
    (⟨⟨removed.1, removed.2.leftColumn⟩, ⟨junction, removed.2.leftColumn⟩, false⟩ :
      Equation).phrase ++ [Part.words " AND "] ++
    (⟨⟨removed.1, removed.2.rightColumn⟩, ⟨junction, removed.2.rightColumn⟩, false⟩ :
      Equation).phrase ++ [Part.words ")"]

theorem text_notRemovedPhrase (junction : String) (removed : String × Junction) :
    (notRemovedPhrase junction removed).text b = notRemoved junction removed.1 removed.2 := by
  unfold notRemovedPhrase notRemoved
  simp [String.append_assoc]

def keptPhrase (junction : String) (removed : List (String × Junction)) : Phrase :=
  if removed.isEmpty then [] else
    .words " WHERE " :: Phrase.separated (.words " AND ") (removed.map (notRemovedPhrase junction))

theorem rows_keptPhrase (junction : String) (removed : List (String × Junction)) :
    (keptPhrase junction removed).rows = removed.map Prod.fst := by
  have each : (fun r => (notRemovedPhrase junction r).rows) = fun r => [r.1] := rfl
  unfold keptPhrase
  cases removed with
  | nil => rfl
  | cons first rest =>
    rw [if_neg (by simp), Phrase.rows_cons, Phrase.rows_separated, List.flatMap_map, each,
      ← List.map_eq_flatMap]
    rfl

def settlePhrase (junction : String) (removed : List (String × Junction)) (added : List String) :
    Phrase :=
  [Part.words "SELECT ", .label junction, .words ".* FROM ", .rows junction] ++
    keptPhrase junction removed ++
    added.flatMap fun cte => [Part.words " UNION ALL SELECT * FROM ", .rows cte]

theorem text_settlePhrase (junction : String) (removed : List (String × Junction))
    (added : List String) :
    (settlePhrase junction removed added).text b = settleSql junction removed added := by
  unfold settlePhrase keptPhrase settleSql
  cases removed with
  | nil => simp [Phrase.text_flatMap, String.append_assoc]
  | cons first rest =>
    simp [Phrase.text_flatMap, Phrase.text_separated, Function.comp_def, text_notRemovedPhrase,
      String.append_assoc]

namespace Command

def phrase : Command → Phrase
  | .input payload => [.words "SELECT ", .value (Sql.placeholder payload "json"), .words " AS j"]
  | .insert table columns data blocked conflict =>
    [Part.words "INSERT INTO ", .label table, .words " ("] ++ columnsPhrase columns ++
      [Part.words ") SELECT "] ++ valuesPhrase columns ++ [Part.words " FROM "] ++
      data.phrase columns ++
      (if blocked then [Part.words " WHERE false"] else []) ++
      (conflict.map Conflict.phrase).getD [] ++ [Part.words " RETURNING *"]
  | .update table columns data reach =>
    [Part.words "UPDATE ", .label table, .words " SET ("] ++ columnsPhrase columns ++
      [Part.words ") = (SELECT "] ++ valuesPhrase columns ++ [Part.words " FROM "] ++
      data.phrase columns ++ [Part.words ")"] ++ reach.phrase ⟨" FROM ", Eq.refl true⟩ ++
      [Part.words " RETURNING ", .label table, .words ".*"]
  | .read table reach =>
    [Part.words "SELECT ", .label table, .words ".* FROM ", .rows table] ++
      reach.phrase ⟨", ", Eq.refl true⟩
  | .delete table filter =>
    [.words "DELETE FROM ", .label table, .words " WHERE ", .value filter, .words " RETURNING *"]
  | .pick table filter single =>
    [Part.words "SELECT * FROM ", .rows table, .words " WHERE ", .value filter] ++
      if single then [Part.words " LIMIT 1"] else []
  | .attach table column owner filter =>
    [Part.words "UPDATE ", .label table, .words " SET ", .label column, .words " = ", .column owner,
      .words " FROM ", .rows owner.source, .words " WHERE ", .value filter, .words " RETURNING ",
      .label table, .words ".*"]
  | .detach table column owner related filter =>
    [Part.words "UPDATE ", .label table, .words " SET ", .label column, .words " = NULL FROM ",
      .rows owner, .words " WHERE "] ++ related.phrase ++ [Part.words " AND ", .value filter,
      .words " RETURNING ", .label table, .words ".*"]
  | .cross c => c.addPhrase
  | .uncross c => c.removePhrase
  | .union parts => unionPhrase parts
  | .settle junction removed added => settlePhrase junction removed added

theorem text_phrase (c : Command) : c.phrase.text b = c.sql.fill b := by
  unfold phrase sql
  cases c with
  | input payload =>
    unfold Input.dataSql
    simp [Template.fill_text, String.append_assoc]
  | insert table columns data blocked conflict =>
    cases blocked <;> cases conflict <;>
      simp [text_columnsPhrase, text_valuesPhrase, Input.text_phrase, Conflict.text_phrase,
        Template.fill_append, Template.fill_text]
  | update table columns data reach =>
    simp [text_columnsPhrase, text_valuesPhrase, Input.text_phrase, Reach.text_phrase,
      Template.fill_append, Template.fill_text]
  | read table reach =>
    simp [Reach.text_phrase, Template.fill_append, Template.fill_text]
  | pick table filter single =>
    cases single <;> simp [Template.fill_append, Template.fill_text]
  | delete | attach | detach => simp [Template.fill_append, Template.fill_text]
  | cross c => simp [Crossing.text_addPhrase, Template.fill_text]
  | uncross c => simp [Crossing.text_removePhrase, Template.fill_text]
  | union parts => simp [text_unionPhrase, Template.fill_text]
  | settle junction removed added => simp [text_settlePhrase, Template.fill_text]

end Command

/-- The text of a command lists columns, and then the values that they get, each in its place. -/
def Command.Assigns (c : Command) (columns : List Assignment) : Prop :=
  ∃ before between after,
    (between = [Part.words ") SELECT "] ∨ between = [Part.words ") = (SELECT "]) ∧
    c.phrase = before ++ columnsPhrase columns ++ between ++ valuesPhrase columns ++ after

theorem assigns_insert (table : String) (columns : List Assignment) (data : Input) (blocked : Bool)
    (conflict : Option Conflict) :
    (Command.insert table columns data blocked conflict).Assigns columns := by
  refine ⟨[Part.words "INSERT INTO ", .label table, .words " ("], _,
    [Part.words " FROM "] ++ data.phrase columns ++
      (if blocked then [Part.words " WHERE false"] else []) ++
      (conflict.map Conflict.phrase).getD [] ++ [Part.words " RETURNING *"], .inl rfl, ?_⟩
  simp only [Command.phrase, List.append_assoc]

theorem assigns_update (table : String) (columns : List Assignment) (data : Input)
    (reach : Reach) : (Command.update table columns data reach).Assigns columns := by
  refine ⟨[Part.words "UPDATE ", .label table, .words " SET ("], _,
    [Part.words " FROM "] ++ data.phrase columns ++ [Part.words ")"] ++
      reach.phrase ⟨" FROM ", Eq.refl true⟩ ++
      [Part.words " RETURNING ", .label table, .words ".*"], .inr rfl, ?_⟩
  simp only [Command.phrase, List.append_assoc]

def Cte.phrase (c : Cte) : Phrase :=
  [Part.label c.name, .words " AS ("] ++ c.command.phrase ++ [Part.words ")"]

theorem Cte.text_phrase (c : Cte) : c.phrase.text b = c.sql.fill b := by
  simp [phrase, Cte.sql, Command.text_phrase, Template.fill_append, Template.fill_text]

theorem Mutation.Context.writeStep_phrases {ctx : Context} {step : Step} {ctes : List Cte}
    (made : ctx.step step = .ok ctes) :
    ctx.writeStep b step = .ok (ctes.map fun cte => cte.phrase.text b) := by
  rw [writeStep_eq_fill, made]
  simp only [Cte.text_phrase]
  rfl

theorem Mutation.Context.writeParts_phrases {ctx : Context} {payload : String} {chain : Chain}
    {ctes : List Cte} (made : ctx.ctes payload chain = .ok ctes) :
    ctx.writeParts b payload chain = .ok (ctes.map fun cte => cte.phrase.text b) := by
  rw [writeParts_eq_fill, made]
  simp only [Cte.text_phrase]
  rfl

section Rows

theorem rows_columnsPhrase (columns : List Assignment) : (columnsPhrase columns).rows = [] := by
  simp [columnsPhrase, Phrase.names, List.flatMap_map]

theorem rows_valuesPhrase (columns : List Assignment) : (valuesPhrase columns).rows = [] := by
  rw [valuesPhrase, Phrase.rows_commas, List.flatMap_map, List.flatMap_eq_nil_iff]
  intro a _
  cases a.source <;> rfl

theorem Input.rows_phrase (input : Input) (columns : List Assignment) :
    (input.phrase columns).rows =
      Input.name :: distinct (columns.filterMap fun a => a.source.table?) := by
  simp [phrase, pathPhrase, Phrase.rows_flatMap]

theorem Conflict.rows_phrase (c : Conflict) : c.phrase.rows = [] := by
  have updates : (resolutionPhrase c.updates).rows = [] := by
    unfold resolutionPhrase
    split <;> simp [List.flatMap_map]
  unfold phrase
  cases c.filter <;> simp [updates, Phrase.names, List.flatMap_map]

namespace Reach

def sources : Reach → List String
  | .filtered _ => []
  | .related parent _ _ => [parent]

def junctions : Reach → List String
  | .filtered _ => []
  | .related _ e _ => (e.junction?.map Junction.table).toList

theorem rows_relatedPhrase (parent : String) (e : Edge) :
    (relatedPhrase parent e).rows = (e.junction?.map Junction.table).toList ++ [parent] := by
  unfold relatedPhrase
  cases e.junction? <;> simp

theorem rows_phrase (word : Words) (reach : Reach) :
    (reach.phrase word).rows = reach.junctions ++ reach.sources := by
  cases reach with
  | filtered f => rfl
  | related parent e filter =>
    cases filter <;> simp [phrase, rows_relatedPhrase, junctions, sources]

end Reach

namespace Command

/-- The names of rows that the text of a command takes from other commands. -/
def sources : Command → List String
  | .input _ | .delete .. | .pick .. => []
  | .insert _ columns _ _ _ => columns.filterMap fun a => a.source.table?
  | .update _ columns _ reach => (columns.filterMap fun a => a.source.table?) ++ reach.sources
  | .read _ reach => reach.sources
  | .attach _ _ owner _ => [owner.source]
  | .detach _ _ owner _ _ => [owner]
  | .cross c | .uncross c => [c.parent.source, c.child.source]
  | .union parts => parts
  | .settle _ removed added => removed.map Prod.fst ++ added

/-- The names of rows that are there before: the data, and tables as they are stored. -/
def stored : Command → List String
  | .input _ | .delete .. | .attach .. | .detach .. | .cross _ | .uncross _ | .union _ => []
  | .insert .. => [Input.name]
  | .update _ _ _ reach => Input.name :: reach.junctions
  | .read table reach => table :: reach.junctions
  | .pick table .. => [table]
  | .settle junction .. => [junction]

/-- There are no other rows in the text of a command. -/
theorem mem_rows {c : Command} {name : String} :
    name ∈ c.phrase.rows ↔ name ∈ c.sources ∨ name ∈ c.stored := by
  cases c with
  | insert table columns data blocked conflict =>
    have settled : ((conflict.map Conflict.phrase).getD []).rows = [] := by
      cases conflict with
      | none => rfl
      | some c => exact c.rows_phrase
    cases blocked <;> simp [phrase, sources, stored, rows_columnsPhrase, rows_valuesPhrase,
      Input.rows_phrase, settled, mem_distinct, or_comm]
  | update table columns data reach =>
    simp only [phrase, sources, stored, Phrase.rows_append, rows_columnsPhrase, rows_valuesPhrase,
      Input.rows_phrase, Reach.rows_phrase, Phrase.rows_cons, Phrase.rows_nil, Part.rows?_fixed,
      Part.rows?_label, Option.toList_none, List.nil_append, List.append_nil, List.mem_append,
      List.mem_cons, mem_distinct]
    tauto
  | read table reach =>
    simp only [phrase, sources, stored, Phrase.rows_append, Reach.rows_phrase, Phrase.rows_cons,
      Phrase.rows_nil, Part.rows?_fixed, Part.rows?_rows, Part.rows?_label, Option.toList_none,
      Option.toList_some, List.nil_append, List.mem_append, List.mem_cons]
    tauto
  | settle junction removed added =>
    simp only [phrase, settlePhrase, sources, stored, Phrase.rows_append, rows_keptPhrase,
      Phrase.rows_flatMap, Phrase.rows_cons, Phrase.rows_nil, Part.rows?_fixed, Part.rows?_rows,
      Part.rows?_label, Option.toList_none, Option.toList_some, List.nil_append, List.append_nil,
      List.flatMap_singleton', List.mem_append, List.mem_singleton]
    tauto
  | union parts => simp [phrase, unionPhrase, sources, stored, List.flatMap_map]
  | pick table filter single => cases single <;> simp [phrase, sources, stored]
  | cross c => simp [phrase, Crossing.addPhrase, sources, stored]
  | uncross c => simp [phrase, Crossing.removePhrase, sources, stored]
  | input | delete | attach | detach => simp [phrase, sources, stored]

end Command

end Rows

end Lateral
