import Lateral.Schema

/-!
Relationships read off foreign keys. A foreign key relates its table and the table it points to in
both directions. A table with two keys or more to other tables also relates those to each other. The
direct relationships come first, and none is ever replaced, so a direct one always wins.
-/

namespace Lateral

structure ForeignKey where
  tableKey : String
  column : Endpoint
  targetKey : String
  target : Endpoint
  deriving DecidableEq, Repr, Inhabited

namespace ForeignKey

def isSelf (k : ForeignKey) : Bool := k.tableKey = k.targetKey

def outward (k : ForeignKey) : Edge := ⟨.oneToMany, k.column, k.target⟩

def inward (k : ForeignKey) : Edge := ⟨.oneToOne, k.target, k.column⟩

def across (left right : ForeignKey) : Edge :=
  ⟨.through ⟨left.column.table, left.column.column, right.column.column⟩, left.target, right.target⟩

end ForeignKey

def Endpoint.ofColumn (table : String) (c : Column) : Endpoint := ⟨table, c.name, c.array⟩

namespace Catalog

/-- The tables with their columns; a table that the columns do not reach has none. -/
def describedFrom : List CatalogTable → List (List Column) → List (CatalogTable × List Column)
  | [], _ => []
  | t :: tables, [] => (t, []) :: describedFrom tables []
  | t :: tables, columns :: rest => (t, columns) :: describedFrom tables rest

def described (c : Catalog) : List (CatalogTable × List Column) := describedFrom c.tables c.columns

end Catalog

namespace Schema

def foreignKey (s : Schema) (t : Table) (c : Column) : Except Error (Option ForeignKey) := do
  let some name := c.target | return none
  let target ← s.table name
  let id := c.targetIds.headD 0
  let some targetColumn := target.columnById? id
    | throw (.unknownColumnId target.name id.toInt)
  return some {
    tableKey := t.key
    column := Endpoint.ofColumn t.name c
    targetKey := target.key
    target := Endpoint.ofColumn target.name targetColumn }

def tableForeignKeys (s : Schema) (table : CatalogTable) (columns : List Column) :
    Except Error (String × List ForeignKey) := do
  let t ← s.table table.name
  let keys ← columns.mapM (s.foreignKey t)
  return (t.key, keys.filterMap id)

def foreignKeys (s : Schema) (catalog : Catalog) : Except Error (List (String × List ForeignKey)) :=
  (catalog.tables.zip catalog.columns).mapM fun (table, columns) => s.tableForeignKeys table columns

def addEdge (s : Schema) (child parent : String) (e : Edge) : Schema :=
  { s with edges := s.edges.insertIfNew (child, parent) e }

/-- A key to its own table relates the table to itself in one way only. -/
def addDirect (s : Schema) (k : ForeignKey) : Schema :=
  let s := s.addEdge k.tableKey k.targetKey k.outward
  if k.isSelf then s else s.addEdge k.targetKey k.tableKey k.inward

def addThrough (s : Schema) (pair : ForeignKey × ForeignKey) : Schema :=
  s.addEdge pair.1.targetKey pair.2.targetKey (pair.1.across pair.2)

/-- The pairs of differently named keys of one table, both to other tables. -/
def junctionPairs (key : String) (keys : List ForeignKey) : List (ForeignKey × ForeignKey) :=
  let outbound := keys.filter fun k => k.targetKey ≠ key
  outbound.flatMap fun left => (outbound.filter fun right =>
    left.column.column ≠ right.column.column).map fun right => (left, right)

def addForeignKeys (s : Schema) (links : List (String × List ForeignKey)) : Schema :=
  let s := (links.flatMap Prod.snd).foldl addDirect s
  (links.flatMap fun (key, keys) => junctionPairs key keys).foldl addThrough s

/-- Adds the relationships of a catalog, or none of them. -/
def buildRelationships (s : Schema) (catalog : Catalog) : Except Error Schema := do
  return s.addForeignKeys (← s.foreignKeys catalog)

/-- The schema of a catalog. All tables are registered before a key is followed, since it may point
to a later one. -/
def ofCatalog (catalog : Catalog) (aliases : Dict String (List String))
    (inflector : Inflector := .english) : Except Error Schema :=
  let start : Schema := { inflector, version := catalog.version }
  let s := catalog.described.foldl (fun (s : Schema) (table, columns) =>
    s.addTable table columns ((aliases.get? table.name).getD [])) start
  s.buildRelationships catalog

def addRemote (s : Schema) (child parent localColumn remoteField : String) :
    Except Error Schema := do
  let t ← s.table parent
  let c ← t.column localColumn
  let e : Edge := ⟨.remote, Endpoint.ofColumn t.name c, ⟨child, remoteField, false⟩⟩
  return { s with edges := s.edges.insert (s.canonical child, t.key) e }

end Schema

end Lateral
