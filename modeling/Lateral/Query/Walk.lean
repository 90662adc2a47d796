import Lateral.Query.Printer

/-!
The walk over the selections of a query, parents before children and children in the order in which
they are listed. A selection that lies in itself has no finite text; a chain of more selections than
there are must hold one twice, so the length of a chain is bounded by their number.
-/

namespace Lateral.Query

inductive Event where
  | enter (node : Node)
  | leave (node : Node)
  deriving DecidableEq, Repr

namespace Context

def walk (ctx : Context) : Nat → Nat → Except Error (List Event)
  | 0, id => .error (.endlessSelection id)
  | depth + 1, id => do
    let node ← ctx.node id
    let inner ← node.joined.mapM (ctx.walk depth)
    return .enter node :: (inner.flatten ++ [.leave node])

def checkPositions : Nat → List Selection → Except Error Unit
  | _, [] => .ok ()
  | position, s :: rest =>
    if s.id = position then checkPositions (position + 1) rest
    else .error (.misplacedSelection position s.id)

def roots (ctx : Context) : Except Error (List Selection) := do
  if ctx.request.roots.isEmpty then throw .emptyQuery
  checkPositions 0 ctx.request.selections
  ctx.request.roots.mapM ctx.selection

def events (ctx : Context) : Except Error (List Event) := do
  let walks ← ctx.request.roots.mapM (ctx.walk ctx.request.selections.length)
  return walks.flatten

/-- The text of events. A comma follows the end of a root as long as more roots are to come. -/
def eventsSql : Nat → List Event → Template
  | _, [] => []
  | left, .enter n :: rest => n.openSql ++ eventsSql left rest
  | left, .leave n :: rest =>
    if n.nested then n.closeSql ++ eventsSql left rest
    else n.closeSql ++ (if 1 < left then ", " else "") ++ eventsSql (left - 1) rest

/-- Several roots, or one with a cursor, make up a row. -/
def isSeveral (ctx : Context) (roots : List Selection) : Bool :=
  1 < roots.length || roots.any ctx.hasCursor

def header (ctx : Context) (roots : List Selection) : String :=
  if ctx.isSeveral roots then severalHeader (roots.map fun s => rootColumn (ctx.hasCursor s) s)
  else match roots with
    | s :: _ => singleHeader s
    | [] => ""

def trailer (ctx : Context) (roots : List Selection) : String :=
  if ctx.isSeveral roots then severalTrailer else ""

def skipped (events : List Event) : SkipMask :=
  SkipMask.ofIds (events.flatMap fun
    | .enter n => n.remote
    | .leave _ => [])

def compile (ctx : Context) : Except Error (Template × SkipMask) := do
  let roots ← ctx.roots
  let events ← ctx.events
  return (ctx.header roots ++ eventsSql roots.length events ++ ctx.trailer roots,
    skipped events)

end Context

end Lateral.Query
