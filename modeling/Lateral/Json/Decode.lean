import Lateral.Json
import Lateral.Json.Fault

/-!
Typed values from JSON. A record takes its fields in the order in which they stand, so the first one
of a wrong shape decides the fault; fields it does not know are passed over, and a missing one is
noticed at the end. It may also be given as the values of its fields alone, in their own order.
-/

namespace Lateral.Json

def toText : Json → Except ReadFault String
  | .str s => .ok s
  | _ => .error .shape

def toBool : Json → Except ReadFault Bool
  | .bool b => .ok b
  | _ => .error .shape

def toNat : Json → Except ReadFault Nat
  | .int (.ofNat n) => .ok n
  | _ => .error .shape

def toIntIn (least greatest : Int) : Json → Except ReadFault Int
  | .int n => if least ≤ n ∧ n ≤ greatest then .ok n else .error .shape
  | _ => .error .shape

def toInt16 (j : Json) : Except ReadFault Int16 := do
  return Int16.ofInt (← j.toIntIn Int16.minValue.toInt Int16.maxValue.toInt)

def toInt32 (j : Json) : Except ReadFault Int32 := do
  return Int32.ofInt (← j.toIntIn Int32.minValue.toInt Int32.maxValue.toInt)

def toInt64 (j : Json) : Except ReadFault Int64 := do
  return Int64.ofInt (← j.toIntIn Int64.minValue.toInt Int64.maxValue.toInt)

def toUInt32 (j : Json) : Except ReadFault UInt32 := do
  return UInt32.ofNat (← j.toIntIn 0 0xFFFFFFFF).toNat

/-- A whole number is accepted where a fraction may stand. -/
def toDouble : Json → Except ReadFault Double
  | .float x => .ok x
  | .int n => .ok (Double.ofInt n)
  | _ => .error .shape

variable {α σ : Type}

def toOption (read : Json → Except ReadFault α) : Json → Except ReadFault (Option α)
  | .null => .ok none
  | j => (read j).map some

def toList (read : Json → Except ReadFault α) : Json → Except ReadFault (List α)
  | .arr items => items.mapM read
  | _ => .error .shape

def toTexts : Json → Except ReadFault (List String) := toList toText

def toFields (read : Json → Except ReadFault α) : Json → Except ReadFault (List (String × α))
  | .obj fields => fields.mapM fun (key, value) => do return (key, ← read value)
  | _ => .error .shape

section Record

variable (start : σ) (field : σ → String → Json → Except ReadFault σ) (names required : List String)

def gather (fields : List (String × Json)) : Except ReadFault σ := do
  let record ← fields.foldlM (fun s f => field s f.1 f.2) start
  if required.all fun key => fields.any (·.1 == key) then return record else throw .shape

def toRecord : Json → Except ReadFault σ
  | .obj fields => gather start field required fields
  | .arr items => do
    let record ← gather start field required (names.zip items)
    if items.length ≤ names.length then return record else throw .shape
  | _ => .error .shape

end Record

/-- A name from a table, alone or as the one key of an object with nothing under it. -/
def toChoice (table : List (String × α)) (j : Json) : Except ReadFault α :=
  let name? := match j with
    | .str name => some name
    | .obj [(name, .null)] => some name
    | _ => none
  match name?.bind fun name => table.lookup name with
  | some a => .ok a
  | none => .error .shape

def ofOption (write : α → Json) : Option α → Json
  | some a => write a
  | none => .null

def ofTexts (ss : List String) : Json := .arr (ss.map .str)

def ofNat (n : Nat) : Json := .int n

end Lateral.Json
