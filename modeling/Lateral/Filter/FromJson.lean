import Lateral.Filter
import Lateral.Json
import Lateral.Schema

/-!
Filters from JSON objects. A key names a column, a related table or a combinator. Under a column, a
value stands for equality, a list for membership, nothing for a null test, and an object names its
operators; a text after a dollar sign is a variable.
-/

namespace Lateral

namespace Operand

mutual

/-- The operand of a JSON value. An object stands for its text. -/
def ofPayload : Json → Operand
  | .null => .null
  | .bool b => .bool b
  | .int n =>
    if Int64.minValue.toInt ≤ n ∧ n ≤ Int64.maxValue.toInt then .int (Int64.ofInt n)
    else .float (Double.ofInt n)
  | .float x => .float x
  | .str s => match s.toList with
    | '$' :: c :: name => .variable (String.ofList (c :: name))
    | _ => .text s
  | .arr items => .list (ofPayloads items)
  | .obj fields => .text (Json.obj fields).render

def ofPayloads : List Json → List Operand
  | [] => []
  | item :: rest => ofPayload item :: ofPayloads rest

end

theorem ofPayloads_eq_map (items : List Json) : ofPayloads items = items.map ofPayload := by
  induction items with
  | nil => rfl
  | cons item rest ih => rw [ofPayloads, List.map_cons, ih]

end Operand

namespace Filter

def maxDepth : Nat := 32

/-- A group of filters. One filter needs no group, and none is no filter. -/
def combine (group : List Filter → Filter) : List Filter → Except Error Filter
  | [] => .error (.invalidFilter .empty)
  | [f] => .ok f
  | parts => .ok (group parts)

def ofColumn (path : List String) (column : String) (value : Json) : Except Error Filter :=
  let condition (op : Operator) (operand : Operand) : Filter := .leaf ⟨path, column, op, operand⟩
  match value with
  | .obj operators => do
    let parts ← operators.mapM fun (code, operand) =>
      match Operator.ofCode? code with
      | some op => .ok (condition op (Operand.ofPayload operand))
      | none => .error (.unknownOperator code)
    combine .all parts
  | .null => .ok (condition .isNull (.bool true))
  | .arr items => .ok (condition .isIn (Operand.ofPayload (.arr items)))
  | scalar => .ok (condition .equals (Operand.ofPayload scalar))

inductive KeyMeaning where
  | all
  | any
  | not
  | column
  | related (table : Table)
  | unknown

/-- A combinator comes before a column, and a column before a table. -/
def KeyMeaning.of (s : Schema) (t : Table) (key : String) : KeyMeaning :=
  if key = "and" then .all
  else if key = "or" then .any
  else if key = "not" then .not
  else if (t.column? key).isSome then .column
  else match s.table? key with
    | some child => .related child
    | none => .unknown

def requireDepth (depth : Nat) : Except Error Unit :=
  if maxDepth < depth then .error (.invalidFilter .tooDeep) else .ok ()

def refuseValue (depth : Nat) (value : Json) : Except Error Filter := do
  requireDepth depth
  throw (.invalidFilter (.notObject value.render))

mutual

def ofObject (s : Schema) (t : Table) (path : List String) (depth : Nat) :
    Json → Except Error Filter
  | .obj fields => do
    requireDepth depth
    combine .all (← ofFields s t path depth fields)
  | other => refuseValue depth other

def ofFields (s : Schema) (t : Table) (path : List String) (depth : Nat) :
    List (String × Json) → Except Error (List Filter)
  | [] => .ok []
  | (key, value) :: rest => do
    let f ← ofEntry s t path depth key value
    let fs ← ofFields s t path depth rest
    return f :: fs

def ofItems (s : Schema) (t : Table) (path : List String) (depth : Nat) :
    List Json → Except Error (List Filter)
  | [] => .ok []
  | item :: rest => do
    let f ← ofObject s t path depth item
    let fs ← ofItems s t path depth rest
    return f :: fs

def ofEntry (s : Schema) (t : Table) (path : List String) (depth : Nat) (key : String) :
    Json → Except Error Filter
  | .obj fields => match KeyMeaning.of s t key with
    | .all => do combine .all (← ofFields s t path (depth + 1) fields)
    | .any => do combine .any (← ofFields s t path (depth + 1) fields)
    | .not => do
      requireDepth (depth + 1)
      return .not (← combine .all (← ofFields s t path (depth + 1) fields))
    | .column => ofColumn path key (.obj fields)
    | .related child => do
      requireDepth (depth + 1)
      combine .all (← ofFields s child (path ++ [key]) (depth + 1) fields)
    | .unknown => .error (.unknownColumn t.name key)
  | .arr items => match KeyMeaning.of s t key with
    | .all => do combine .all (← ofItems s t path (depth + 1) items)
    | .any => do combine .any (← ofItems s t path (depth + 1) items)
    | .not | .related _ => refuseValue (depth + 1) (.arr items)
    | .column => ofColumn path key (.arr items)
    | .unknown => .error (.unknownColumn t.name key)
  | scalar => match KeyMeaning.of s t key with
    | .all | .any => .error (.invalidFilter (.notGroup key))
    | .not | .related _ => refuseValue (depth + 1) scalar
    | .column => ofColumn path key scalar
    | .unknown => .error (.unknownColumn t.name key)

end

def ofPayload (s : Schema) (t : Table) (value : Json) : Except Error Filter :=
  ofObject s t [] 0 value

end Filter

end Lateral
