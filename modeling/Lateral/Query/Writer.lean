import Lateral.Filter.Writer
import Lateral.Query.Walk

/-!
Queries as text, with the bindings of variables at hand. The text grows selection by selection: each
is looked up in the schema, written up to its children, and closed after them.
-/

namespace Lateral.Query

def Search.write (b : Bindings) (s : Search) : String := s.function ++ "(" ++ s.words.write b ++ ")"

def Output.write (b : Bindings) (search : Search) (table : String) : Output → String
  | .column c => (Sql.ColumnRef.mk table c).sql
  | .aggregate f c name =>
    f.name ++ "(" ++ (Sql.ColumnRef.mk table c).sql ++ ")" ++ Sql.asName name
  | .searchRank c name =>
    "ts_rank(" ++ (Sql.ColumnRef.mk table c).sql ++ ", " ++ search.write b ++ ")" ++ Sql.asName name
  | .searchHeadline c name =>
    "ts_headline(" ++ (Sql.ColumnRef.mk table c).sql ++ ", " ++ search.write b ++ ")" ++
      Sql.asName name
  | .undefined name => Text.quote (name ++ " not defined") ++ Sql.asName name

def writeWhere : List String → String
  | [] => ""
  | [condition] => " WHERE " ++ condition
  | conditions => " WHERE (" ++ String.intercalate " AND " conditions ++ ")"

def writeCount (b : Bindings) (word : String) : Option Argument → String
  | some a => word ++ a.writeInteger b
  | none => ""

namespace Context

def writeCursor (b : Bindings) (p : Plan) (key : Column) (value : Argument) : String :=
  "((" ++ (Sql.ColumnRef.mk p.table.name key.name).sql ++
    (if isBackward p.selection then ") < " else ") > ") ++ value.writeTyped b key.sqlType ++ ")"

def writeConditions (ctx : Context) (b : Bindings) (p : Plan) : Except Error (List String) := do
  let related := p.parent.toList.map fun q => (Sql.edgeCondition q.edge q.source).sql
  if ctx.isAbsorbed p.selection then return related
  let filter ← p.selection.filter.toList.mapM (Filter.write b ctx.schema p.table)
  let after := match p.cursor, p.selection.paging.cursor with
    | some key, some value => [writeCursor b p key (.ofText value)]
    | _, _ => []
  return related ++ filter ++ after

def writeBase (ctx : Context) (b : Bindings) (p : Plan) : Except Error String := do
  let table := p.table.name
  let conditions ← ctx.writeConditions b p
  return "SELECT " ++
    (if p.distinctOn.isEmpty then ""
      else columnClause "DISTINCT ON (" table p.distinctOn ++ ") ") ++
    commaList (p.outputs.map (Output.write b (ctx.search p.selection) table)) ++
    " FROM " ++ Sql.name table ++ (p.join?.map Sql.JunctionJoin.sql).getD "" ++
    writeWhere conditions ++
    columnClause " GROUP BY " table p.groupBy ++
    orderClause table (baseOrders p.distinctOn p.orders) ++
    writeCount b " LIMIT " (ctx.limit? p.selection) ++
    writeCount b " OFFSET " (ctx.offset? p.selection)

end Context

structure Progress where
  text : String
  /-- The number of roots to come. -/
  left : Nat
  skipped : SkipMask := {}

namespace Progress

def opened (p : Progress) (h : Head) (base : String) (remote : List Nat) : Progress :=
  { p with
    text := p.text ++ h.beforeBase ++ base ++ h.afterBase
    skipped := remote.foldl SkipMask.insert p.skipped }

/-- A comma follows the end of a root as long as more roots are to come. -/
def closed (p : Progress) (h : Head) : Progress :=
  if h.nested then { p with text := p.text ++ h.closeSql }
  else { p with
    text := p.text ++ h.closeSql ++ (if 1 < p.left then ", " else "")
    left := p.left - 1 }

end Progress

namespace Context

def writeSelection (ctx : Context) (b : Bindings) : Nat → Progress → Nat → Except Error Progress
  | 0, _, id => .error (.endlessSelection id)
  | depth + 1, progress, id => do
    let p ← ctx.plan id
    let h := p.head ctx
    let base ← ctx.writeBase b p
    let inner ← p.joined.foldlM (ctx.writeSelection b depth) (progress.opened h base p.remote)
    return inner.closed h

def write (ctx : Context) (b : Bindings) : Except Error (String × SkipMask) := do
  let roots ← ctx.roots
  let written ← ctx.request.roots.foldlM (ctx.writeSelection b ctx.request.selections.length)
    { text := ctx.header roots, left := roots.length }
  return (written.text ++ ctx.trailer roots, written.skipped)

end Context

end Lateral.Query
