import Lateral.Mutation.Writer
import Lateral.Query.Writer
import Lateral.Settings

/-!
Requests to statements. A query is one select that returns JSON. A mutation is a chain of named
commands followed by the same select, which then reads the rows that the chain returned.
-/

namespace Lateral

structure Compiler where
  schema : Schema
  settings : Settings := {}

structure Statement where
  sql : String
  skipped : SkipMask
  deriving DecidableEq, Repr

namespace Compiler

def bindings (c : Compiler) (given : Variables) : Bindings := ⟨c.settings.fixed, given⟩

/-- A request to read. The absorbed root reads what a mutation has returned. -/
def queryContext (c : Compiler) (r : Request) (absorbed : Option Nat) : Query.Context where
  schema := c.schema
  defaultLimit := c.settings.defaultLimit
  request := r
  absorbed := absorbed

def read (c : Compiler) (r : Request) (absorbed : Option Nat) (given : Variables) :
    Except Error Statement := do
  let (sql, skipped) ← (c.queryContext r absorbed).write (c.bindings given)
  return ⟨sql, skipped⟩

def compileQuery (c : Compiler) (r : Request) (given : Variables) : Except Error Statement :=
  c.read r none given

def readAfter (c : Compiler) (r : Request) (root : Nat) (given : Variables)
    (parts : List String) : Except Error Statement := do
  let ⟨read, skipped⟩ ← c.read r (some root) given
  return ⟨"WITH " ++ String.intercalate ", " parts ++ " " ++ read, skipped⟩

def payload (r : Request) (given : Variables) : Except Error (String × Json) := do
  let some name := r.payload | throw .missingPayloadVariable
  match given.get? name with
  | none => throw (.missingVariable name)
  | some .null | some (.str "") => throw (.emptyVariable name)
  | some value => return (name, value)

def writeRows (c : Compiler) (ctx : Mutation.Context) (r : Request) (root : Nat) (kind : RowKind)
    (given : Variables) : Except Error Statement := do
  let (name, value) ← payload r given
  let chain ← Mutation.build c.schema kind ctx.table value
  c.readAfter r root given (← ctx.writeParts (c.bindings given) name chain)

/-- The first root of a request, with its table. Its presets have to name columns of the table. -/
def mutationRoot (c : Compiler) (r : Request) : Except Error (Nat × Mutation.Context) := do
  let some id := r.roots.head? | throw .emptyQuery
  let some root := r.selections[id]? | throw (.unknownSelection id)
  let t ← c.schema.table root.table
  if r.operation.isMutation then t.requireWritable
  let _ ← root.presets.mapM fun p => t.column p.column
  return (id, ⟨c.schema, root, t⟩)

def compileMutation (c : Compiler) (r : Request) (given : Variables) :
    Except Error Statement := do
  let (id, ctx) ← c.mutationRoot r
  match r.operation with
  | .query => c.compileQuery r given
  | .delete => c.readAfter r id given [← ctx.writeDeletion (c.bindings given)]
  | .insert => c.writeRows ctx r id .insert given
  | .upsert => c.writeRows ctx r id .upsert given
  | .update => c.writeRows ctx r id .update given

def compile (c : Compiler) (r : Request) (given : Variables) : Except Error Statement :=
  match r.operation with
  | .query => c.compileQuery r given
  | _ => c.compileMutation r given

def idColumn (c : Compiler) (name : String) : Except Error Column := do
  (← c.schema.table name).primary name

end Compiler

end Lateral
