import Lateral.Mutation.Source
import Lateral.Sorted

/-!
The named parts of a mutation's statement. Each is worked out as data, with its filter as finished
text, before it is written.
-/

namespace Lateral

structure Input where
  table : String
  path : List String
  array : Bool
  deriving DecidableEq, Repr

structure Conflict where
  targets : List Column
  filter : Option Template
  updates : List Column
  deriving DecidableEq, Repr

inductive Reach where
  | filtered (filter : Template)
  /-- Those related to the rows of a parent. -/
  | related (parent : String) (edge : Edge) (filter : Option Template)
  deriving DecidableEq, Repr

structure Crossing where
  junction : Junction
  parent : Sql.ColumnRef
  child : Sql.ColumnRef
  deriving DecidableEq, Repr

inductive Command where
  /-- The data of the mutation, under a variable. -/
  | input (payload : String)
  | insert (table : String) (columns : List Assignment) (data : Input) (blocked : Bool)
    (conflict : Option Conflict)
  | update (table : String) (columns : List Assignment) (data : Input) (reach : Reach)
  /-- The rows of an update that has nothing to write. -/
  | read (table : String) (reach : Reach)
  | delete (table : String) (filter : Template)
  /-- Rows to link, at most one of them if single. -/
  | pick (table : String) (filter : Template) (single : Bool)
  /-- Gives rows the key of their owner. -/
  | attach (table column : String) (owner : Sql.ColumnRef) (filter : Template)
  /-- Takes the key of their owner from rows. -/
  | detach (table column : String) (owner : String) (related : Sql.Equation) (filter : Template)
  | cross (crossing : Crossing)
  | uncross (crossing : Crossing)
  | union (parts : List String)
  /-- The rows of a junction as they are after the mutation. -/
  | settle (junction : String) (removed : List (String × Junction)) (added : List String)
  deriving Repr

structure Cte where
  name : String
  command : Command
  deriving Repr

def Input.name : String := "_sg_input"

def Input.sql (input : Input) (columns : List Assignment) : String :=
  let tables := distinct (columns.filterMap fun a => a.source.table?)
  Sql.name Input.name ++ " i, " ++ String.join (tables.map fun t => Sql.name t ++ ", ") ++
    (if input.array then "json_populate_recordset" else "json_populate_record") ++
    "(NULL::" ++ Sql.name input.table ++ ", i.j" ++
    String.join (input.path.map fun key => "->" ++ Text.quote key) ++ ") t"

def columnList (columns : List Column) : String :=
  String.intercalate ", " (columns.map fun c => Sql.name c.name)

def sourceList (columns : List Assignment) : Template :=
  Template.join ", " (columns.map fun a => a.source.sql a.column)

def resolution (updates : List Column) : String :=
  if updates.isEmpty then " DO NOTHING"
  else " DO UPDATE SET " ++ String.intercalate ", "
    (updates.map fun u => Sql.name u.name ++ " = EXCLUDED." ++ Sql.name u.name)

def Conflict.sql (c : Conflict) : Template :=
  let filter : Template := match c.filter with
    | some f => " WHERE " ++ f
    | none => []
  " ON CONFLICT (" ++ columnList c.targets ++ ")" ++ filter ++ resolution c.updates

def Reach.relatedRows (parent : String) (e : Edge) : String :=
  let condition := (Sql.edgeCondition e parent).sql
  match e.junction? with
  | some j =>
    let far : Sql.Equation := ⟨⟨j.table, j.rightColumn⟩, ⟨parent, e.right.column⟩, false⟩
    Sql.name j.table ++ ", " ++ Sql.name parent ++ " WHERE " ++ condition ++ " AND " ++ far.sql
  | none => Sql.name parent ++ " WHERE " ++ condition

def Reach.relatedSql (parent : String) (e : Edge) (filter : Option Template) : Template :=
  match filter with
  | some f => Reach.relatedRows parent e ++ " AND " ++ f
  | none => Reach.relatedRows parent e

def Reach.sql (word : String) : Reach → Template
  | .filtered f => " WHERE " ++ f
  | .related parent e filter => word ++ Reach.relatedSql parent e filter

def Crossing.conditions (c : Crossing) : Sql.Equation × Sql.Equation :=
  (⟨⟨c.junction.table, c.junction.rightColumn⟩, c.parent, false⟩,
    ⟨⟨c.junction.table, c.junction.leftColumn⟩, c.child, false⟩)

def Crossing.addSql (c : Crossing) : String :=
  "INSERT INTO " ++ Sql.name c.junction.table ++ " (" ++ Sql.name c.junction.rightColumn ++
    ", " ++ Sql.name c.junction.leftColumn ++ ") SELECT " ++ c.parent.sql ++ ", " ++
    c.child.sql ++ " FROM " ++ Sql.name c.parent.source ++ ", " ++ Sql.name c.child.source ++
    " RETURNING *"

def Crossing.removeSql (c : Crossing) : String :=
  "DELETE FROM " ++ Sql.name c.junction.table ++ " USING " ++ Sql.name c.parent.source ++ ", " ++
    Sql.name c.child.source ++ " WHERE " ++ c.conditions.1.sql ++ " AND " ++ c.conditions.2.sql ++
    " RETURNING " ++ Sql.name c.junction.table ++ ".*"

def unionSql (parts : List String) : String :=
  String.intercalate " UNION ALL " (parts.map fun part => "SELECT * FROM " ++ Sql.name part)

def notRemoved (junction : String) (cte : String) (j : Junction) : String :=
  let same (column : String) : Sql.Equation := ⟨⟨cte, column⟩, ⟨junction, column⟩, false⟩
  "NOT EXISTS (SELECT 1 FROM " ++ Sql.name cte ++ " WHERE " ++ (same j.leftColumn).sql ++ " AND " ++
    (same j.rightColumn).sql ++ ")"

def settleSql (junction : String) (removed : List (String × Junction)) (added : List String) :
    String :=
  let kept := removed.map fun r => notRemoved junction r.1 r.2
  "SELECT " ++ Sql.name junction ++ ".* FROM " ++ Sql.name junction ++
    (if kept.isEmpty then "" else " WHERE " ++ String.intercalate " AND " kept) ++
    String.join (added.map fun cte => " UNION ALL SELECT * FROM " ++ Sql.name cte)

def Input.dataSql (payload : String) : String :=
  "SELECT " ++ Sql.placeholder payload "json" ++ " AS j"

namespace Command

@[simp] def sql : Command → Template
  | .input payload => Input.dataSql payload
  | .insert table columns data blocked conflict =>
    "INSERT INTO " ++ Sql.name table ++ " (" ++ columnList (columns.map Assignment.column) ++
      ") SELECT " ++ sourceList columns ++ " FROM " ++ data.sql columns ++
      (if blocked then " WHERE false" else "") ++ (conflict.map Conflict.sql).getD [] ++
      " RETURNING *"
  | .update table columns data reach =>
    "UPDATE " ++ Sql.name table ++ " SET (" ++ columnList (columns.map Assignment.column) ++
      ") = (SELECT " ++ sourceList columns ++ " FROM " ++ data.sql columns ++ ")" ++
      reach.sql " FROM " ++ " RETURNING " ++ Sql.name table ++ ".*"
  | .read table reach =>
    "SELECT " ++ Sql.name table ++ ".* FROM " ++ Sql.name table ++ reach.sql ", "
  | .delete table filter =>
    "DELETE FROM " ++ Sql.name table ++ " WHERE " ++ filter ++ " RETURNING *"
  | .pick table filter single =>
    "SELECT * FROM " ++ Sql.name table ++ " WHERE " ++ filter ++ (if single then " LIMIT 1" else "")
  | .attach table column owner filter =>
    "UPDATE " ++ Sql.name table ++ " SET " ++ Sql.name column ++ " = " ++ owner.sql ++ " FROM " ++
      Sql.name owner.source ++ " WHERE " ++ filter ++ " RETURNING " ++ Sql.name table ++ ".*"
  | .detach table column owner related filter =>
    "UPDATE " ++ Sql.name table ++ " SET " ++ Sql.name column ++ " = NULL FROM " ++
      Sql.name owner ++ " WHERE " ++ related.sql ++ " AND " ++ filter ++ " RETURNING " ++
      Sql.name table ++ ".*"
  | .cross c => c.addSql
  | .uncross c => c.removeSql
  | .union parts => unionSql parts
  | .settle junction removed added => settleSql junction removed added

def target? : Command → Option String
  | .insert table .. | .update table .. | .delete table _ | .attach table .. | .detach table .. =>
    some table
  | .cross c | .uncross c => some c.junction.table
  | .input _ | .read .. | .pick .. | .union _ | .settle .. => none

end Command

def Cte.sql (c : Cte) : Template := Sql.name c.name ++ " AS (" ++ c.command.sql ++ ")"

end Lateral
