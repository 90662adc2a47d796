import Lateral.Text.Case

/-!
The catalog of a database: tables, their columns, and the rows that describe the columns. A column
has one row for each of its constraints; merging the rows gives one description of it.
-/

namespace Lateral

inductive TableKind where
  | table
  | view
  | materializedView
  | foreignTable
  deriving DecidableEq, Repr, Inhabited

/-- The kind by its name or its catalog letter, in any case. -/
def TableKind.ofText? (text : String) : Option TableKind :=
  match Text.lower text with
  | "table" | "r" => some .table
  | "view" | "v" => some .view
  | "materialized view" | "materializedview" | "m" => some .materializedView
  | "foreign table" | "foreigntable" | "f" => some .foreignTable
  | _ => none

def TableKind.name : TableKind → String
  | .table => "Table"
  | .view => "View"
  | .materializedView => "MaterializedView"
  | .foreignTable => "ForeignTable"

/-- Views of both kinds are read only. -/
def TableKind.isWritable : TableKind → Bool
  | .table | .foreignTable => true
  | .view | .materializedView => false

structure Column where
  /-- The position within the table. -/
  id : Int16
  name : String
  sqlType : String
  array : Bool := false
  notNull : Bool := false
  primaryKey : Bool := false
  uniqueKey : Bool := false
  /-- The table that a foreign key points to. -/
  target : Option String := none
  /-- The columns that it points to, of which the first is followed. -/
  targetIds : List Int16 := []
  deriving DecidableEq, Repr, Inhabited

namespace Column

def primary (c : Column) : Column := { c with primaryKey := true, notNull := true }

def unique (c : Column) : Column := { c with uniqueKey := true }

def required (c : Column) : Column := { c with notNull := true }

def asArray (c : Column) : Column := { c with array := true }

def referencing (c : Column) (table : String) (id : Int16) : Column :=
  { c with target := some table, targetIds := [id] }

def isSearchable (c : Column) : Bool := Text.equalIgnoringAsciiCase c.sqlType "tsvector"

/-- Adds what another row says of the same column. The first foreign key stays. -/
def absorb (c row : Column) : Column :=
  { c with
    array := c.array || row.array
    notNull := c.notNull || row.notNull
    primaryKey := c.primaryKey || row.primaryKey
    uniqueKey := c.uniqueKey || row.uniqueKey
    target := if c.target.isNone then row.target else c.target
    targetIds := if c.target.isNone && row.target.isSome then row.targetIds else c.targetIds }

def mergeRow : List Column → Column → List Column
  | [], row => [row]
  | c :: rest, row => if c.id = row.id then c.absorb row :: rest else c :: mergeRow rest row

def mergeRows (rows : List Column) : List Column := rows.foldl mergeRow []

end Column

structure CatalogTable where
  id : Int32 := 0
  name : String
  kind : TableKind := .table
  deriving DecidableEq, Repr, Inhabited

structure Catalog where
  /-- The version of the server as one number, such as 110005. -/
  version : Int32 := 0
  tables : List CatalogTable
  /-- The columns of the tables, in the same order. -/
  columns : List (List Column)
  deriving DecidableEq, Repr, Inhabited

end Lateral
