import Lateral.Filter.FromJson
import Lateral.Mutation.Payload
import Lateral.Request

/-!
The writes of a mutation as a tree. Under a table, a key of the data that names a related table
holds data to write there, or the rows to connect and disconnect. A tree is built level by level:
all keys of a level are looked at before the levels below, and those from the last key to the
first.
-/

namespace Lateral

inductive RowKind where
  | insert
  | upsert
  | update
  deriving DecidableEq, Repr, Inhabited

inductive LinkKind where
  | connect
  | disconnect
  deriving DecidableEq, Repr, Inhabited

structure Rows where
  id : Nat
  kind : RowKind
  table : Table
  /-- The keys that lead from the root of the data to these rows. -/
  path : List String
  payload : Payload
  /-- The relationship to the table above, missing at the root. -/
  edge : Option Edge
  /-- The rows that an update below the root is narrowed to. -/
  filter : Option Filter := none
  deriving Repr

/-- Existing rows to connect to a row above, or to disconnect from it. -/
structure Link where
  id : Nat
  kind : LinkKind
  filter : Filter
  deriving Repr

structure LinkGroup where
  id : Nat
  table : Table
  edge : Edge
  links : List Link
  deriving Repr

inductive Write where
  | rows (rows : Rows) (children : List Write)
  | links (group : LinkGroup)
  deriving Repr

structure Chain where
  root : Rows
  children : List Write
  deriving Repr

namespace Mutation

def connectKeys : List String := ["connect", "_connect"]

def disconnectKeys : List String := ["disconnect", "_disconnect"]

def whereKey : String := "where"

def isLinkKey (key : String) : Bool := connectKeys.contains key || disconnectKeys.contains key

/-- Rows whose data has not been looked into. The weight is above the size of every value in it. -/
structure Draft where
  id : Nat
  kind : RowKind
  table : Table
  path : List String
  payload : Payload
  edge : Option Edge
  weight : Nat
  small : ∀ f ∈ payload.fields, f.2.size < weight

structure State where
  next : Nat
  written : List String

def Draft.nested (d : Draft) : List (String × Json) :=
  d.payload.fields.filter fun f => f.2.isNested && (d.table.column? f.1).isNone

theorem Draft.size_lt_of_mem_nested (d : Draft) {f : String × Json} (h : f ∈ d.nested) :
    f.2.size < d.weight :=
  d.small f (List.mem_filter.1 h).1

/-- The rows that a link takes: those of one filter, or of any in a list. -/
def linkFilter (s : Schema) (t : Table) : Json → Except Error Filter
  | .arr items => do
    match ← items.mapM (Filter.ofPayload s t) with
    | [f] => return f
    | parts => return .any parts
  | value => Filter.ofPayload s t value

/-- A link under a key. Rows cannot be disconnected from one that is only being inserted, and the
rows of a child that holds the key are written. -/
def link (s : Schema) (d : Draft) (e : Edge) (st : State) (f : String × Json) :
    Except Error (Link × State) := do
  let kind := if disconnectKeys.contains f.1 then LinkKind.disconnect else .connect
  if kind = .disconnect ∧ d.kind ≠ .update then
    throw (.invalidPayload (.disconnectOnInsert d.table.name))
  let filter ← linkFilter s d.table f.2
  if e.isOneToMany then d.table.requireWritable
  return (⟨st.next, kind, filter⟩, { st with next := st.next + 1 })

def links (s : Schema) (d : Draft) (e : Edge) :
    State → List (String × Json) → Except Error (List Link × State)
  | st, [] => .ok ([], st)
  | st, f :: rest => do
    let (l, st) ← link s d e st f
    let (ls, st) ← links s d e st rest
    return (l :: ls, st)

def childKind : RowKind → RowKind
  | .update => .update
  | .insert | .upsert => .insert

def child (s : Schema) (d : Draft) (st : State) (f : String × Json) (h : f.2.size < d.weight) :
    Except Error ({ c : Draft // c.weight < d.weight } × State) := do
  if d.payload.array then throw .nestedBulkWrite
  let t ← s.table f.1
  let e ← s.edge f.1 d.table.name
  t.requireWritable
  if e.isRemote then throw (.unusableEdge f.1 d.table.name .remoteWrite)
  if st.written.contains t.key then throw (.duplicateWrite t.name)
  let kind := childKind d.kind
  match hp : Payload.ofJson f.2 with
  | .error e => throw e
  | .ok payload =>
    if payload.array ∧ kind = .update then throw (.invalidPayload (.bulkUpdate f.1))
    let draft : Draft :=
      { id := st.next, kind := kind, table := t, path := d.path ++ [f.1], payload := payload
        edge := some e, weight := f.2.size, small := fun _ hf => Payload.size_lt_of_mem hp hf }
    return (⟨draft, h⟩, ⟨st.next + 1, t.key :: st.written⟩)

/-- The children of rows, and the filter of an update. The root takes its filter from the request.
-/
def children (s : Schema) (d : Draft) : State → Option Filter →
    (fields : List (String × Json)) → (∀ f ∈ fields, f.2.size < d.weight) →
    Except Error (List { c : Draft // c.weight < d.weight } × Option Filter × State)
  | st, filter, [], _ => .ok ([], filter, st)
  | st, filter, f :: rest, h => do
    have hrest : ∀ g ∈ rest, g.2.size < d.weight := fun g hg => h g (List.mem_cons_of_mem f hg)
    if f.1 = whereKey ∧ d.kind = .update then
      if d.path.isEmpty then children s d st filter rest hrest
      else children s d st (some (← Filter.ofPayload s d.table f.2)) rest hrest
    else
      let (c, st) ← child s d st f (h f List.mem_cons_self)
      let (cs, filter, st) ← children s d st filter rest hrest
      return (c :: cs, filter, st)

/-- Looks into the data of a draft. If it holds links it holds nothing else. -/
def expand (s : Schema) (d : Draft) (st : State) : Except Error (Write × State) := do
  let nested := d.nested
  let count := nested.countP fun f => isLinkKey f.1
  if 0 < count then
    match d.edge with
    | none => throw (.invalidPayload .rootLink)
    | some e =>
      if count ≠ d.payload.fields.length then
        throw (.invalidPayload (.mixedLinks (String.intercalate "." d.path)))
      let (ls, st) ← links s d e st nested
      return (.links ⟨d.id, d.table, e, ls⟩, st)
  else
    let (drafts, filter, st) ← children s d st none nested fun _ h => d.size_lt_of_mem_nested h
    let (writes, st) ← drafts.foldrM (fun c (ws, st) => do
      let (w, st) ← expand s c.1 st
      return (w :: ws, st)) ([], st)
    return (.rows ⟨d.id, d.kind, d.table, d.path, d.payload, d.edge, filter⟩ writes, st)
termination_by d.weight
decreasing_by exact c.2

def build (s : Schema) (kind : RowKind) (t : Table) (value : Json) : Except Error Chain := do
  match hp : Payload.ofJson value with
  | .error e => throw e
  | .ok payload =>
    let root : Draft :=
      { id := 0, kind := kind, table := t, path := [], payload := payload, edge := none
        weight := value.size, small := fun _ hf => Payload.size_lt_of_mem hp hf }
    match ← expand s root ⟨1, [t.key]⟩ with
    | (.rows rows children, _) => return ⟨rows, children⟩
    | (.links _, _) => throw (.invalidPayload .rootLink)

end Mutation

end Lateral
