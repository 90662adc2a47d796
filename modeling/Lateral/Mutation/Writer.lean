import Lateral.Filter.Writer
import Lateral.Mutation.Chain

/-!
The named parts of a mutation as text, with the bindings of variables at hand. The data of the
mutation itself stays open; variables in filters and presets are written with their values.
-/

namespace Lateral

def Source.write (b : Bindings) (column : Column) : Source → String
  | .payload => (⟨"t", column.name⟩ : Sql.ColumnRef).sql
  | .preset value => value.writeTyped b column.sqlType
  | .related c => c.sql
  | .null => "NULL"

def writeSources (b : Bindings) (columns : List Assignment) : String :=
  String.intercalate ", " (columns.map fun a => a.source.write b a.column)

def writeCte (name command : String) : String := Sql.name name ++ " AS (" ++ command ++ ")"

namespace Mutation.Context

def writeRootFilter (ctx : Context) (b : Bindings) (operation : Operation) :
    Except Error String :=
  match ctx.root.filter with
  | some f => f.write b ctx.schema ctx.table
  | none => .error (.missingFilter operation.name ctx.table.name)

def writeConflict (ctx : Context) (b : Bindings) (columns : List Assignment) :
    Except Error String := do
  let targets ← ctx.conflictTargets columns
  let filter ← match ctx.root.filter with
    | none | some .never => pure ""
    | some f => (" WHERE " ++ ·) <$> f.write b ctx.schema ctx.table
  let updates := (columns.map Assignment.column).filter fun c =>
    !targets.any fun target => target.name = c.name
  return " ON CONFLICT (" ++ columnList targets ++ ")" ++ filter ++ resolution updates

def writeInsert (ctx : Context) (b : Bindings) (r : Rows) (parent : Option Rows)
    (columns : List Assignment) : Except Error (List String) := do
  if columns.isEmpty then throw (.invalidPayload (.nothingToInsert r.table.name))
  let blocked := parent.isNone && ctx.root.filter.any Filter.isNever
  let conflict ← if parent.isNone && r.kind = .upsert then ctx.writeConflict b columns
    else pure ""
  let rows := writeCte r.table.name ("INSERT INTO " ++ Sql.name r.table.name ++ " (" ++
    columnList (columns.map Assignment.column) ++ ") SELECT " ++ writeSources b columns ++
    " FROM " ++ (input r).sql columns ++ (if blocked then " WHERE false" else "") ++ conflict ++
    " RETURNING *")
  match r.edge, parent with
  | some e, some p =>
    match crossing? e p.table.name r.table.name with
    | some c => return [rows, writeCte (crossingName c.junction r.id) c.addSql]
    | none => return [rows]
  | _, _ => return [rows]

def writeReach (ctx : Context) (b : Bindings) (word : String) (r : Rows) (parent : Option Rows) :
    Except Error String :=
  match r.edge, parent with
  | some e, some p => do
    let rows := Reach.relatedRows p.table.name e
    match r.filter with
    | some f => return word ++ rows ++ " AND " ++ (← f.write b ctx.schema r.table)
    | none => return word ++ rows
  | _, _ => do return " WHERE " ++ (← ctx.writeRootFilter b .update)

def writeUpdate (ctx : Context) (b : Bindings) (r : Rows) (parent : Option Rows)
    (columns : List Assignment) : Except Error (List String) := do
  let table := Sql.name r.table.name
  if columns.isEmpty then
    let reach ← ctx.writeReach b ", " r parent
    return [writeCte r.table.name ("SELECT " ++ table ++ ".* FROM " ++ table ++ reach)]
  else
    let reach ← ctx.writeReach b " FROM " r parent
    return [writeCte r.table.name ("UPDATE " ++ table ++ " SET (" ++
      columnList (columns.map Assignment.column) ++ ") = (SELECT " ++ writeSources b columns ++
      " FROM " ++ (input r).sql columns ++ ")" ++ reach ++ " RETURNING " ++ table ++ ".*")]

def writeLink (ctx : Context) (b : Bindings) (g : LinkGroup) (owner : Rows) (l : Link) :
    Except Error (List String) := do
  let table := Sql.name g.table.name
  let name := g.cteName l
  match g.edge.kind with
  | .remote => throw (.unusableEdge g.table.name owner.table.name .remoteLink)
  | .oneToMany =>
    let filter ← l.filter.write b ctx.schema g.table
    let opening := "UPDATE " ++ table ++ " SET " ++ Sql.name g.edge.left.column
    let closing := filter ++ " RETURNING " ++ table ++ ".*"
    match l.kind with
    | .connect =>
      return [writeCte name (opening ++ " = " ++
        (⟨owner.table.name, g.edge.right.column⟩ : Sql.ColumnRef).sql ++ " FROM " ++
        Sql.name owner.table.name ++ " WHERE " ++ closing)]
    | .disconnect =>
      return [writeCte name (opening ++ " = NULL FROM " ++ Sql.name owner.table.name ++
        " WHERE " ++ (Sql.edgeCondition g.edge owner.table.name).sql ++ " AND " ++ closing)]
  | .oneToOne =>
    let filter ← l.filter.write b ctx.schema g.table
    return [writeCte name ("SELECT * FROM " ++ table ++ " WHERE " ++ filter ++ " LIMIT 1")]
  | .through j =>
    let filter ← l.filter.write b ctx.schema g.table
    let c : Crossing :=
      ⟨j, ⟨owner.table.name, g.edge.right.column⟩, ⟨name, g.edge.left.column⟩⟩
    return [writeCte name ("SELECT * FROM " ++ table ++ " WHERE " ++ filter),
      writeCte (crossingName j l.id) (match l.kind with
        | .connect => c.addSql
        | .disconnect => c.removeSql)]

def writeStep (ctx : Context) (b : Bindings) : Step → Except Error (List String)
  | .rows r parent children =>
    let columns := r.assignments ctx.root parent children
    match r.kind with
    | .insert | .upsert => ctx.writeInsert b r parent columns
    | .update => ctx.writeUpdate b r parent columns
  | .link g owner l => ctx.writeLink b g owner l
  | .union g => .ok [writeCte g.table.name (unionSql (g.links.map g.cteName))]

def writeJunctions (steps : List Step) : Except Error (List String) :=
  let writes := junctionWrites steps
  (distinct (writes.map fun w => w.junction.table)).mapM fun junction =>
    if steps.any fun s => s.table.name = junction then .error (.duplicateWrite junction)
    else .ok (writeCte junction
      (settleSql junction (removals writes junction) (additions writes junction)))

def writeParts (ctx : Context) (b : Bindings) (payload : String) (chain : Chain) :
    Except Error (List String) := do
  let rows ← chain.steps.mapM (ctx.writeStep b)
  let junctions ← writeJunctions chain.steps
  return writeCte Input.name (Input.dataSql payload) :: (rows.flatten ++ junctions)

def writeDeletion (ctx : Context) (b : Bindings) : Except Error String := do
  let filter ← ctx.writeRootFilter b .delete
  return writeCte ctx.table.name
    ("DELETE FROM " ++ Sql.name ctx.table.name ++ " WHERE " ++ filter ++ " RETURNING *")

end Mutation.Context

end Lateral
