import Lateral.Filter.Tokens
import Lateral.Query.FieldKind
import Lateral.Request
import Lateral.SkipMask

/-!
One selection worked out against the schema: the row source over its table, the entries of its JSON
row, and the links to its children. Everything that an outer level reads from the row source is
among its outputs, each name once.
-/

namespace Lateral.Query

/-- What is compiled. The absorbed selection is the root of a mutation, whose filter and page have
been applied already. -/
structure Context where
  schema : Schema
  defaultLimit : UInt32
  request : Request
  absorbed : Option Nat := none

namespace Context

def selection (ctx : Context) (id : Nat) : Except Error Selection :=
  match ctx.request.selections[id]? with
  | some s => .ok s
  | none => .error (.unknownSelection id)

def isAbsorbed (ctx : Context) (s : Selection) : Bool := ctx.absorbed = some s.id

def hasCursor (ctx : Context) (s : Selection) : Bool := s.paging.isCursor && !ctx.isAbsorbed s

end Context

structure Parent where
  source : String
  edge : Edge
  deriving DecidableEq, Repr

inductive Link where
  /-- Left to the caller. -/
  | remote (child : Selection) (edge : Edge)
  | joined (child : Selection) (edge : Edge)
  deriving Repr

def Link.parentColumn : Link → String
  | .remote _ e => e.left.column
  | .joined _ e => e.right.column

def Link.joined? : Link → Option Selection
  | .joined s _ => some s
  | .remote _ _ => none

def Link.remote? : Link → Option (Selection × Edge)
  | .remote s e => some (s, e)
  | .joined _ _ => none

inductive Output where
  | column (name : String)
  | aggregate (function : Aggregate) (column name : String)
  | searchRank (column name : String)
  | searchHeadline (column name : String)
  | undefined (name : String)
  deriving DecidableEq, Repr

namespace Output

def name : Output → String
  | .column name | .aggregate _ _ name | .searchRank _ name | .searchHeadline _ name
  | .undefined name => name

def groupedColumn? : Output → Option String
  | .column c | .searchRank c _ | .searchHeadline c _ => some c
  | .aggregate _ _ _ | .undefined _ => none

def ofField (f : Field) : FieldKind → Output
  | .plain c => .column c.name
  | .aggregate g c => .aggregate g c.name f.name
  | .searchRank c => .searchRank c.name f.name
  | .searchHeadline c => .searchHeadline c.name f.name
  | .undefined => .undefined f.name

def add (outputs : List Output) (o : Output) : List Output :=
  if outputs.any fun p => p.name = o.name then outputs else outputs ++ [o]

def merge (outputs : List Output) : List Output := outputs.foldl add []

end Output

inductive Restriction where
  /-- The row belongs to a row of the parent. -/
  | related (equation : Sql.Equation)
  | filter (tokens : List Token)
  /-- The row comes after the cursor, or before it. -/
  | cursor (column : Sql.ColumnRef) (backward : Bool) (value : Argument) (sqlType : String)
  deriving DecidableEq, Repr

structure Search where
  function : String
  words : Argument
  deriving DecidableEq, Repr

structure BaseSource where
  table : String
  search : Search
  distinctOn : List String
  outputs : List Output
  join : Option Sql.JunctionJoin
  restrictions : List Restriction
  groupBy : List String
  orderBy : List (String × Direction)
  limit : Option Argument
  offset : Option Argument
  deriving DecidableEq, Repr

inductive RowEntry where
  | column (source label : String)
  | child (join : String) (id : Nat) (label : String) (withCursor : Bool)
  deriving DecidableEq, Repr

structure Head where
  id : Nat
  label : String
  singular : Bool
  /-- The selection lies in another one. -/
  nested : Bool
  table : String
  entries : List RowEntry
  orders : List (String × Direction)
  /-- The primary key, if pages are cut on it. -/
  cursor : Option String
  backward : Bool
  deriving DecidableEq, Repr

structure Node extends Head where
  base : BaseSource
  joined : List Nat
  remote : List Nat
  deriving DecidableEq, Repr

def joinName (label : String) (id : Nat) : String := Sql.numbered label id ++ "_join"

namespace Context

def parent? (ctx : Context) (s : Selection) : Except Error (Option Parent) := do
  let some id := s.parent | return none
  let parent ← ctx.selection id
  let t ← ctx.schema.table parent.table
  let e ← ctx.schema.edge s.table parent.table
  return some ⟨Sql.numbered t.name id, e⟩

def fields (s : Selection) (t : Table) : List (Field × FieldKind) :=
  s.fields.filterMap fun f => (FieldKind.classify s t f.name).map fun kind => (f, kind)

/-- The link to a child. A remote child has to fit the skip mask. -/
def link (ctx : Context) (s : Selection) (id : Nat) : Except Error Link := do
  let child ← ctx.selection id
  let e ← ctx.schema.edge child.table s.table
  if e.isRemote then
    SkipMask.require id
    return .remote child e
  else return .joined child e

def search (ctx : Context) (s : Selection) : Search where
  function := ctx.schema.searchFunction
  words := match s.search with
    | some text => .ofText text
    | none => .fixed ""

def distinctColumns (s : Selection) (t : Table) : Except Error (List String) :=
  s.distinctOn.mapM fun name => return (← t.column name).name

def requestedOrders (s : Selection) (t : Table) : Except Error (List (String × Direction)) :=
  s.orderBy.mapM fun o => return ((← t.column o.column).name, o.direction)

def isBackward (s : Selection) : Bool := s.paging.kind = .backward

def cursorColumn (ctx : Context) (s : Selection) (t : Table) : Except Error (Option Column) := do
  if ctx.hasCursor s then return some (← t.primary s.label) else return none

/-- Under a cursor the primary key alone orders the rows. -/
def effectiveOrders (s : Selection) (cursor : Option Column) (orders : List (String × Direction)) :
    List (String × Direction) :=
  match cursor with
  | some key => [(key.name, if isBackward s then .desc else .asc)]
  | none => orders

/-- The columns that distinct rows are told apart by lead the order. -/
def baseOrders (distinctOn : List String) (orders : List (String × Direction)) :
    List (String × Direction) :=
  (distinctOn.map fun c => (c, ((orders.find? fun o => o.1 = c).map Prod.snd).getD .asc)) ++
    orders.filter fun o => !distinctOn.contains o.1

def filterRestrictions (s : Schema) (t : Table) (filters : List Filter) :
    Except Error (List Restriction) :=
  filters.mapM fun f => return .filter (← f.tokens s t)

def restrictions (ctx : Context) (s : Selection) (t : Table) (parent : Option Parent)
    (cursor : Option Column) : Except Error (List Restriction) := do
  let related := parent.toList.map fun p => Restriction.related (Sql.edgeCondition p.edge p.source)
  if ctx.isAbsorbed s then return related
  let filter ← filterRestrictions ctx.schema t s.filter.toList
  let after := match cursor, s.paging.cursor with
    | some key, some value =>
      [Restriction.cursor ⟨t.name, key.name⟩ (isBackward s) (.ofText value) key.sqlType]
    | _, _ => []
  return related ++ filter ++ after

/-- A selection of one row takes one row; others have a limit unless they ask for none. -/
def limit? (ctx : Context) (s : Selection) : Option Argument :=
  if s.singular then some (.fixed "1")
  else if ctx.isAbsorbed s || s.paging.noLimit then none
  else match s.paging.limit with
    | some value => some (.ofText value)
    | none => some (.fixed (toString ctx.defaultLimit.toNat))

def offset? (ctx : Context) (s : Selection) : Option Argument :=
  if ctx.isAbsorbed s then none else s.paging.offset.map .ofText

def fieldEntries (fields : List (Field × FieldKind)) : List RowEntry :=
  fields.map fun (f, kind) => .column (Output.ofField f kind).name f.label

def linkEntries (ctx : Context) (links : List Link) : List RowEntry :=
  ((links.filterMap Link.remote?).map fun (_, e) => RowEntry.column e.left.column e.right.column) ++
    (links.filterMap Link.joined?).map fun c =>
      .child (joinName c.label c.id) c.id c.label (ctx.hasCursor c)

end Context

structure Plan where
  selection : Selection
  table : Table
  parent : Option Parent
  links : List Link
  distinctOn : List String
  requested : List (String × Direction)
  /-- The primary key, if pages are cut on it. -/
  cursor : Option Column

namespace Plan

def fields (p : Plan) : List (Field × FieldKind) := Context.fields p.selection p.table

def orders (p : Plan) : List (String × Direction) :=
  Context.effectiveOrders p.selection p.cursor p.requested

def extra (p : Plan) : List String :=
  p.links.map Link.parentColumn ++ p.distinctOn ++ p.requested.map Prod.fst ++
    p.cursor.toList.map Column.name

def outputs (p : Plan) : List Output :=
  Output.merge (p.fields.map (fun (f, kind) => Output.ofField f kind) ++ p.extra.map Output.column)

def groupBy (p : Plan) : List String :=
  if p.fields.any fun (_, kind) => kind.isAggregate then
    distinct (p.outputs.filterMap Output.groupedColumn?)
  else []

def join? (p : Plan) : Option Sql.JunctionJoin :=
  p.parent.bind fun parent => Sql.junctionJoin? parent.edge parent.source

def joined (p : Plan) : List Nat := (p.links.filterMap Link.joined?).map Selection.id

def remote (p : Plan) : List Nat := (p.links.filterMap Link.remote?).map fun (c, _) => c.id

def head (ctx : Context) (p : Plan) : Head where
  id := p.selection.id
  label := p.selection.label
  singular := p.selection.singular
  nested := p.selection.parent.isSome
  table := p.table.name
  entries := Context.fieldEntries p.fields ++ ctx.linkEntries p.links
  orders := p.orders
  cursor := p.cursor.map Column.name
  backward := Context.isBackward p.selection

def base (ctx : Context) (p : Plan) (restrictions : List Restriction) : BaseSource where
  table := p.table.name
  search := ctx.search p.selection
  distinctOn := p.distinctOn
  outputs := p.outputs
  join := p.join?
  restrictions := restrictions
  groupBy := p.groupBy
  orderBy := Context.baseOrders p.distinctOn p.orders
  limit := ctx.limit? p.selection
  offset := ctx.offset? p.selection

def node (ctx : Context) (p : Plan) (restrictions : List Restriction) : Node where
  toHead := p.head ctx
  base := p.base ctx restrictions
  joined := p.joined
  remote := p.remote

end Plan

namespace Context

def plan (ctx : Context) (id : Nat) : Except Error Plan := do
  let s ← ctx.selection id
  let t ← ctx.schema.table s.table
  let parent ← ctx.parent? s
  let links ← s.children.mapM (ctx.link s)
  let distinctOn ← distinctColumns s t
  let requested ← requestedOrders s t
  let cursor ← ctx.cursorColumn s t
  return ⟨s, t, parent, links, distinctOn, requested, cursor⟩

def node (ctx : Context) (id : Nat) : Except Error Node := do
  let p ← ctx.plan id
  return p.node ctx (← ctx.restrictions p.selection p.table p.parent p.cursor)

end Context

end Lateral.Query
