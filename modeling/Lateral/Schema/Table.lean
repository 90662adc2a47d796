import Lateral.Catalog
import Lateral.Dict
import Lateral.Error
import Lateral.Inflector

/-!
One table of a schema with its columns. Columns are found by name in any case; of two columns with
the same name, or the same id, the later one is found. A table holds the positions of its columns,
which are worked out once.
-/

namespace Lateral

/-- The positions of columns, by name in lower case, by id and by use. -/
structure ColumnIndex where
  byName : Dict String Nat := {}
  byId : Dict Int16 Nat := {}
  primary : Option Nat := none
  search : Option Nat := none
  deriving DecidableEq, Repr

namespace ColumnIndex

def add (ix : ColumnIndex) (c : Column) (position : Nat) : ColumnIndex where
  byName := ix.byName.insert (Text.lower c.name) position
  byId := ix.byId.insert c.id position
  primary := ix.primary.or (if c.primaryKey then some position else none)
  search := ix.search.or (if c.isSearchable then some position else none)

def ofColumns (columns : List Column) : ColumnIndex :=
  columns.zipIdx.foldl (fun ix c => ix.add c.1 c.2) {}

end ColumnIndex

structure Table where
  name : String
  /-- The canonical form of the name. -/
  key : String
  kind : TableKind
  columns : List Column
  index : ColumnIndex
  indexed : index = .ofColumns columns
  deriving DecidableEq, Repr

namespace Table

def ofColumns (name key : String) (kind : TableKind) (columns : List Column) : Table :=
  ⟨name, key, kind, columns, .ofColumns columns, rfl⟩

instance : Inhabited Table := ⟨ofColumns default default default []⟩

def ofCatalog (inflector : Inflector) (table : CatalogTable) (columns : List Column) : Table :=
  ofColumns table.name (inflector.canonical table.name) table.kind columns

section OfCatalog

variable (inflector : Inflector) (table : CatalogTable) (columns : List Column)

@[simp] theorem ofCatalog_name : (ofCatalog inflector table columns).name = table.name := rfl

@[simp] theorem ofCatalog_key :
    (ofCatalog inflector table columns).key = inflector.canonical table.name := rfl

@[simp] theorem ofCatalog_columns : (ofCatalog inflector table columns).columns = columns := rfl

end OfCatalog

def at? (t : Table) (position : Option Nat) : Option Column :=
  position.bind fun i => t.columns[i]?

def column? (t : Table) (name : String) : Option Column :=
  t.at? (t.index.byName.get? (Text.lower name))

def columnById? (t : Table) (id : Int16) : Option Column := t.at? (t.index.byId.get? id)

def column (t : Table) (name : String) : Except Error Column :=
  match t.column? name with
  | some c => .ok c
  | none => .error (.unknownColumn t.name name)

def primary? (t : Table) : Option Column := t.at? t.index.primary

def primary (t : Table) (field : String) : Except Error Column :=
  match t.primary? with
  | some c => .ok c
  | none => .error (.missingPrimaryKey t.name field)

def searchColumn? (t : Table) : Option Column := t.at? t.index.search

def searchColumn (t : Table) : Except Error Column :=
  match t.searchColumn? with
  | some c => .ok c
  | none => .error (.missingSearchColumn t.name)

def isWritable (t : Table) : Bool := t.kind.isWritable

def requireWritable (t : Table) : Except Error Unit :=
  if t.isWritable then .ok () else .error (.readOnlyTable t.name)

end Table

end Lateral
