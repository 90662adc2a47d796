import Lateral.Filter
import Lateral.Json.Decode

/-!
Filters in JSON: a compound part is an object with one key that names its kind.
-/

namespace Lateral

def Operator.ofJson (j : Json) : Except ReadFault Operator := do
  let code ← j.toText
  match Operator.ofCode? code with
  | some op => return op
  | none => throw (.operator code)

def Operator.toJson (op : Operator) : Json := .str op.code

namespace Operand

mutual

def ofJson : Json → Except ReadFault Operand
  | .str "null" => .ok .null
  | .obj [("null", .null)] => .ok .null
  | .obj [("bool", value)] => do return .bool (← value.toBool)
  | .obj [("int", value)] => do return .int (← value.toInt64)
  | .obj [("float", value)] => do return .float (← value.toDouble)
  | .obj [("str", value)] => do return .text (← value.toText)
  | .obj [("var", value)] => do return .variable (← value.toText)
  | .obj [("list", .arr items)] => do return .list (← listOfJson items)
  | _ => .error .shape

def listOfJson : List Json → Except ReadFault (List Operand)
  | [] => .ok []
  | item :: rest => do
    let operand ← ofJson item
    let operands ← listOfJson rest
    return operand :: operands

end

mutual

/-- A number that is not finite has no form of its own and is written as nothing. -/
def toJson : Operand → Json
  | .null => .str "null"
  | .bool b => .obj [("bool", .bool b)]
  | .int n => .obj [("int", .int n.toInt)]
  | .float x => .obj [("float", if x.isFinite then .float x else .null)]
  | .text s => .obj [("str", .str s)]
  | .list items => .obj [("list", .arr (listToJson items))]
  | .variable name => .obj [("var", .str name)]

def listToJson : List Operand → List Json
  | [] => []
  | operand :: rest => toJson operand :: listToJson rest

end

end Operand

def Condition.ofJson : Json → Except ReadFault Condition :=
  Json.toRecord { operator := .equals, operand := .null }
    (fun c key value => match key with
      | "path" => do return { c with path := ← value.toTexts }
      | "col" => do return { c with column := ← value.toText }
      | "op" => do return { c with operator := ← Operator.ofJson value }
      | "val" => do return { c with operand := ← Operand.ofJson value }
      | _ => return c)
    ["path", "col", "op", "val"]
    ["op", "val"]

def Condition.toJson (c : Condition) : Json := .obj [
  ("path", Json.ofTexts c.path),
  ("col", .str c.column),
  ("op", c.operator.toJson),
  ("val", c.operand.toJson)]

namespace Filter

mutual

def ofJson : Json → Except ReadFault Filter
  | .str "false" => .ok .never
  | .obj [("false", .null)] => .ok .never
  | .obj [("and", .arr items)] => do return .all (← listOfJson items)
  | .obj [("or", .arr items)] => do return .any (← listOfJson items)
  | .obj [("not", value)] => do return .not (← ofJson value)
  | .obj [("cond", value)] => do return .leaf (← Condition.ofJson value)
  | _ => .error .shape

def listOfJson : List Json → Except ReadFault (List Filter)
  | [] => .ok []
  | item :: rest => do
    let part ← ofJson item
    let parts ← listOfJson rest
    return part :: parts

end

mutual

def toJson : Filter → Json
  | .all parts => .obj [("and", .arr (listToJson parts))]
  | .any parts => .obj [("or", .arr (listToJson parts))]
  | .not part => .obj [("not", toJson part)]
  | .never => .str "false"
  | .leaf condition => .obj [("cond", condition.toJson)]

def listToJson : List Filter → List Json
  | [] => []
  | part :: rest => toJson part :: listToJson rest

end

end Filter

end Lateral
