import Lateral.Mutation.Step
import Lateral.Sql.Name
import Lateral.Sql.Template

/-!
Where the columns of written rows take their values from. A relationship comes before anything
else. At the root a preset comes next, and the data gives only what the selection allows.
-/

namespace Lateral

inductive Source where
  | payload
  | preset (value : Argument)
  /-- A column of rows that were written or picked before. -/
  | related (column : Sql.ColumnRef)
  | null
  deriving DecidableEq, Repr

structure Assignment where
  column : Column
  source : Source
  deriving DecidableEq, Repr

namespace Source

def sql (column : Column) : Source → Template
  | .payload => (⟨"t", column.name⟩ : Sql.ColumnRef).sql
  | .preset value => value.typed column.sqlType
  | .related c => c.sql
  | .null => "NULL"

def table? : Source → Option String
  | .related c => some c.source
  | _ => none

end Source

def LinkGroup.cteName (g : LinkGroup) (l : Link) : String := Sql.numbered g.table.name l.id

def RowKind.writesRow : RowKind → Bool
  | .insert | .upsert => true
  | .update => false

def Rows.fromParent (r : Rows) (parent : Option Rows) : List (String × Source) :=
  match r.edge, parent with
  | some e, some p =>
    if r.kind.writesRow && e.isOneToMany then
      [(e.left.column, .related ⟨p.table.name, e.right.column⟩)]
    else []
  | _, _ => []

/-- What rows take from a write below them. A group of links gives the key of the first row that is
connected, and nothing if it only disconnects. -/
def Rows.fromChild (r : Rows) : Write → Option (String × Source)
  | .rows c _ =>
    match c.edge with
    | some e =>
      if e.isOneToOne && c.kind = .insert && r.kind.writesRow then
        some (e.right.column, .related ⟨c.table.name, e.left.column⟩)
      else none
    | none => none
  | .links g =>
    if g.edge.isOneToOne then
      match g.links.find? fun l => l.kind = .connect with
      | some l => some (g.edge.right.column, .related ⟨g.cteName l, g.edge.left.column⟩)
      | none => some (g.edge.right.column, .null)
    else none

def Rows.related (r : Rows) (parent : Option Rows) (children : List Write) :
    List (String × Source) :=
  r.fromParent parent ++ children.filterMap r.fromChild

def Rows.fromPayload (r : Rows) (c : Column) : Option Source :=
  if r.payload.contains c.name then some .payload else none

def Selection.sourceOf (s : Selection) (r : Rows) (c : Column) : Option Source :=
  match s.presets.find? fun p => p.column = c.name with
  | some p => some (.preset (Argument.ofText p.value))
  | none => if s.allows c.name then r.fromPayload c else none

def Rows.assignments (r : Rows) (root : Selection) (parent : Option Rows)
    (children : List Write) : List Assignment :=
  let related := r.related parent children
  r.table.columns.filterMap fun c =>
    let source? := match related.lookup c.name with
      | some source => some source
      | none => if parent.isNone then root.sourceOf r c else r.fromPayload c
    source?.map (Assignment.mk c)

end Lateral
