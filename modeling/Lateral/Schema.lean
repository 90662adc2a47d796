import Lateral.Dict
import Lateral.Inflection
import Lateral.Schema.Edge
import Lateral.Schema.Table
import Lateral.Sorted

/-!
The model of a database: its tables under their canonical names, further names for them, and the
relationships between them. Every name is looked up by its canonical form, a table before another
table's further name.
-/

namespace Lateral

structure Schema where
  /-- Singular and plural of names. -/
  inflector : Inflector := .english
  version : Int32 := 0
  tables : Dict String Table := {}
  /-- Canonical forms of further names, with the keys of their tables. -/
  aliases : Dict String String := {}
  /-- Relationships by the keys of child and parent. -/
  edges : Dict (String × String) Edge := {}
  deriving Inhabited

namespace Schema

def canonical (s : Schema) (name : String) : String := s.inflector.canonical name

/-- The first server version with the search function for plain phrases. -/
def phraseSearchVersion : Int32 := 110000

def searchFunction (s : Schema) : String :=
  if phraseSearchVersion ≤ s.version then "websearch_to_tsquery" else "to_tsquery"

/-- Registers a table with further names. A table whose key is taken is left out, names and all. -/
def addTable (s : Schema) (table : CatalogTable) (columns : List Column) (names : List String) :
    Schema :=
  let t := Table.ofCatalog s.inflector table columns
  if s.tables.contains t.key then s
  else
    { s with
      tables := s.tables.insert t.key t
      aliases := names.foldl (fun d name => d.insert (s.canonical name) t.key) s.aliases }

def resolve? (s : Schema) (name : String) : Option String :=
  let key := s.canonical name
  if s.tables.contains key then some key else s.aliases.get? key

def table? (s : Schema) (name : String) : Option Table :=
  (s.resolve? name).bind fun key => s.tables.get? key

def table (s : Schema) (name : String) : Except Error Table :=
  match s.table? name with
  | some t => .ok t
  | none => .error (.unknownTable name)

def isAlias (s : Schema) (name : String) : Bool := s.aliases.contains (s.canonical name)

/-- The key that relationships of a name are kept under; the name need not be that of a table. -/
def edgeKey (s : Schema) (name : String) : String :=
  (s.resolve? name).getD (s.canonical name)

def edge? (s : Schema) (child parent : String) : Option Edge :=
  s.edges.get? (s.edgeKey child, s.edgeKey parent)

def edge (s : Schema) (child parent : String) : Except Error Edge :=
  match s.edge? child parent with
  | some e => .ok e
  | none => .error (.unknownEdge child parent)

def setEdge (s : Schema) (child parent : String) (e : Edge) : Schema :=
  { s with edges := s.edges.insert (s.edgeKey child, s.edgeKey parent) e }

def sortedTables (s : Schema) : List Table :=
  sortBy (fun t u => textLe t.key u.key) s.tables.values

def sortedEdges (s : Schema) : List (String × String × Edge) :=
  let keys := sortedTexts (s.tables.entries.map Prod.fst)
  keys.flatMap fun child => keys.filterMap fun parent =>
    (s.edge? child parent).map fun e => (child, parent, e)

end Schema

end Lateral
