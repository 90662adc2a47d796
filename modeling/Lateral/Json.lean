import Lateral.Decimal.Shortest

/-!
JSON values with the order of object keys kept, and their compact text.
-/

namespace Lateral

/-- A JSON value. Whole numbers of at most 64 bits are apart from all others. -/
inductive Json where
  | null
  | bool (value : Bool)
  | int (value : Int)
  | float (value : Double)
  | str (value : String)
  | arr (items : List Json)
  | obj (fields : List (String × Json))
  deriving Repr, Inhabited

namespace Json

/-- Numbers from 1e-5 up to 1e16 are written in places, a whole one with a zero after the point. -/
def numberLayout : Decimal.Layout where
  places := some (-5, 16)
  keepsPoint := true
  signsExponent := true
  tie := .toEven

def hexDigit (n : Nat) : Char := (Nat.toDigits 16 n).headD '0'

/-- Quotes, backslashes and control characters are escaped, all else stands as it is. -/
def escapeChar (c : Char) : List Char :=
  if c = '"' then ['\\', '"']
  else if c = '\\' then ['\\', '\\']
  else if 0x20 ≤ c.toNat then [c]
  else if c.toNat = 0x08 then ['\\', 'b']
  else if c.toNat = 0x0C then ['\\', 'f']
  else if c.toNat = 0x0A then ['\\', 'n']
  else if c.toNat = 0x0D then ['\\', 'r']
  else if c.toNat = 0x09 then ['\\', 't']
  else ['\\', 'u', '0', '0', hexDigit (c.toNat / 16), hexDigit (c.toNat % 16)]

def renderText (s : String) : String :=
  "\"" ++ String.ofList (s.toList.flatMap escapeChar) ++ "\""

mutual

def render : Json → String
  | .null => "null"
  | .bool true => "true"
  | .bool false => "false"
  | .int n => toString n
  | .float x => if x.isFinite then x.render numberLayout else "null"
  | .str s => renderText s
  | .arr items => "[" ++ renderItems items ++ "]"
  | .obj fields => "\x7b" ++ renderFields fields ++ "\x7d"

def renderItems : List Json → String
  | [] => ""
  | [item] => render item
  | item :: rest => render item ++ "," ++ renderItems rest

def renderFields : List (String × Json) → String
  | [] => ""
  | [(key, value)] => renderText key ++ ":" ++ render value
  | (key, value) :: rest => renderText key ++ ":" ++ render value ++ "," ++ renderFields rest

end

/-- An object, or an array that starts with one: data of its own and not a plain value. -/
def isNested : Json → Bool
  | .obj _ => true
  | .arr (.obj _ :: _) => true
  | _ => false

mutual

def size : Json → Nat
  | .arr items => sizes items + 1
  | .obj fields => fieldSizes fields + 1
  | _ => 1

def sizes : List Json → Nat
  | [] => 0
  | item :: rest => size item + sizes rest

def fieldSizes : List (String × Json) → Nat
  | [] => 0
  | (_, value) :: rest => size value + fieldSizes rest

end

theorem size_le_sizes {items : List Json} {item : Json} (h : item ∈ items) :
    item.size ≤ sizes items := by
  induction items with
  | nil => cases h
  | cons first rest ih =>
    rcases List.mem_cons.1 h with rfl | h
    · simp [sizes]
    · have := ih h
      simp only [sizes]
      omega

theorem size_le_fieldSizes {fields : List (String × Json)} {f : String × Json} (h : f ∈ fields) :
    f.2.size ≤ fieldSizes fields := by
  induction fields with
  | nil => cases h
  | cons first rest ih =>
    rcases List.mem_cons.1 h with rfl | h
    · simp [fieldSizes]
    · have := ih h
      simp only [fieldSizes]
      omega

def field? (key : String) : Json → Option Json
  | .obj fields => fields.lookup key
  | _ => none

end Json

end Lateral
