import Lateral.Mutation.Command
import Lateral.Filter.Tokens

/-!
The commands of a mutation. Every step gives one command, or two if it also writes rows of a
junction; in the end each junction that was written is put together again, so that the read sees
its new rows.
-/

namespace Lateral.Mutation

structure Context where
  schema : Schema
  root : Selection
  table : Table

namespace Context

/-- The filter of the root, which updates and deletes cannot do without. -/
def rootFilter (ctx : Context) (operation : Operation) : Except Error Template :=
  match ctx.root.filter with
  | some f => Filter.sql ctx.schema ctx.table f
  | none => .error (.missingFilter operation.name ctx.table.name)

/-- The columns that tell an upsert which row is meant: those of keys that the data gives, or else
the primary key. -/
def conflictTargets (ctx : Context) (columns : List Assignment) : Except Error (List Column) :=
  let given := columns.filterMap fun a =>
    if a.source = .payload && (a.column.uniqueKey || a.column.primaryKey) then some a.column
    else none
  if given.isEmpty then do return [← ctx.table.primary ctx.root.label] else .ok given

def conflict (ctx : Context) (columns : List Assignment) : Except Error Conflict := do
  let targets ← ctx.conflictTargets columns
  let filter ← match ctx.root.filter with
    | none | some .never => pure none
    | some f => some <$> Filter.sql ctx.schema ctx.table f
  let updates := (columns.map Assignment.column).filter fun c =>
    !targets.any fun target => target.name = c.name
  return ⟨targets, filter, updates⟩

end Context

def input (r : Rows) : Input := ⟨r.table.name, r.path, r.payload.array⟩

def crossing? (e : Edge) (parent child : String) : Option Crossing :=
  e.junction?.map fun j => ⟨j, ⟨parent, e.right.column⟩, ⟨child, e.left.column⟩⟩

def crossingName (j : Junction) (id : Nat) : String := Sql.numbered j.table id

def Context.insert (ctx : Context) (r : Rows) (parent : Option Rows) (columns : List Assignment) :
    Except Error (List Cte) := do
  if columns.isEmpty then throw (.invalidPayload (.nothingToInsert r.table.name))
  let blocked := parent.isNone && ctx.root.filter.any Filter.isNever
  let conflict ← if parent.isNone && r.kind = .upsert then some <$> ctx.conflict columns
    else pure none
  let rows : Cte := ⟨r.table.name, .insert r.table.name columns (input r) blocked conflict⟩
  match r.edge, parent with
  | some e, some p =>
    match crossing? e p.table.name r.table.name with
    | some c => return [rows, ⟨crossingName c.junction r.id, .cross c⟩]
    | none => return [rows]
  | _, _ => return [rows]

def Context.reach (ctx : Context) (r : Rows) (parent : Option Rows) : Except Error Reach :=
  match r.edge, parent with
  | some e, some p => do
    match r.filter with
    | some f => return .related p.table.name e (some (← Filter.sql ctx.schema r.table f))
    | none => return .related p.table.name e none
  | _, _ => do return .filtered (← ctx.rootFilter .update)

def Context.update (ctx : Context) (r : Rows) (parent : Option Rows) (columns : List Assignment) :
    Except Error (List Cte) := do
  let reach ← ctx.reach r parent
  if columns.isEmpty then return [⟨r.table.name, .read r.table.name reach⟩]
  else return [⟨r.table.name, .update r.table.name columns (input r) reach⟩]

def Context.link (ctx : Context) (g : LinkGroup) (owner : Rows) (l : Link) :
    Except Error (List Cte) := do
  let t := g.table.name
  let name := g.cteName l
  match g.edge.kind with
  | .remote => throw (.unusableEdge t owner.table.name .remoteLink)
  | .oneToMany =>
    let filter ← Filter.sql ctx.schema g.table l.filter
    match l.kind with
    | .connect =>
      return [⟨name, .attach t g.edge.left.column ⟨owner.table.name, g.edge.right.column⟩ filter⟩]
    | .disconnect =>
      return [⟨name, .detach t g.edge.left.column owner.table.name
        (Sql.edgeCondition g.edge owner.table.name) filter⟩]
  | .oneToOne =>
    let filter ← Filter.sql ctx.schema g.table l.filter
    return [⟨name, .pick t filter true⟩]
  | .through j =>
    let filter ← Filter.sql ctx.schema g.table l.filter
    let c : Crossing :=
      ⟨j, ⟨owner.table.name, g.edge.right.column⟩, ⟨name, g.edge.left.column⟩⟩
    return [⟨name, .pick t filter false⟩,
      ⟨crossingName j l.id, match l.kind with
        | .connect => .cross c
        | .disconnect => .uncross c⟩]

def Context.step (ctx : Context) : Step → Except Error (List Cte)
  | .rows r parent children =>
    let columns := r.assignments ctx.root parent children
    match r.kind with
    | .insert | .upsert => ctx.insert r parent columns
    | .update => ctx.update r parent columns
  | .link g owner l => ctx.link g owner l
  | .union g => .ok [⟨g.table.name, .union (g.links.map g.cteName)⟩]

structure JunctionWrite where
  id : Nat
  junction : Junction
  removed : Bool
  deriving DecidableEq, Repr

def JunctionWrite.cteName (w : JunctionWrite) : String := crossingName w.junction w.id

def JunctionWrite.ofStep? : Step → Option JunctionWrite
  | .rows r _ _ =>
    if r.kind = .insert then (r.edge.bind Edge.junction?).map fun j => ⟨r.id, j, false⟩ else none
  | .link g _ l => g.edge.junction?.map fun j => ⟨l.id, j, l.kind = .disconnect⟩
  | .union _ => none

def junctionWrites (steps : List Step) : List JunctionWrite :=
  sortBy (fun v w => v.id ≤ w.id) (steps.filterMap JunctionWrite.ofStep?)

def removals (writes : List JunctionWrite) (junction : String) : List (String × Junction) :=
  ((writes.filter fun w => w.junction.table = junction).filter fun w => w.removed).map
    fun w => (w.cteName, w.junction)

def additions (writes : List JunctionWrite) (junction : String) : List String :=
  ((writes.filter fun w => w.junction.table = junction).filter fun w => !w.removed).map
    JunctionWrite.cteName

/-- Puts a junction together again: the rows it had but for removed ones, then the added ones. -/
def settle (writes : List JunctionWrite) (junction : String) : Cte :=
  ⟨junction, .settle junction (removals writes junction) (additions writes junction)⟩

/-- The junctions that steps write, none of which may be a table of a step itself. -/
def settleAll (steps : List Step) : Except Error (List Cte) :=
  let writes := junctionWrites steps
  (distinct (writes.map fun w => w.junction.table)).mapM fun junction =>
    if steps.any fun s => s.table.name = junction then .error (.duplicateWrite junction)
    else .ok (settle writes junction)

def Context.ctes (ctx : Context) (payload : String) (chain : Chain) : Except Error (List Cte) := do
  let rows ← chain.steps.mapM ctx.step
  let junctions ← settleAll chain.steps
  return ⟨Input.name, .input payload⟩ :: (rows.flatten ++ junctions)

def Context.deletion (ctx : Context) : Except Error Cte := do
  return ⟨ctx.table.name, .delete ctx.table.name (← ctx.rootFilter .delete)⟩

end Lateral.Mutation
