import Lateral.Json
import Lateral.Json.Fault

/-!
Reading JSON text. Every reader takes the characters that are left and returns what it read with the
characters after it. A value can be read whole, or passed over; what is passed over need not be
meaningful: neither the range of its numbers nor the pairing of its surrogates matters.
-/

namespace Lateral.Json.Reader

def isBlank (c : Char) : Bool := c = ' ' || c = '\n' || c = '\t' || c = '\r'

def skipBlanks (cs : List Char) : List Char := cs.dropWhile isBlank

def hexValue? (c : Char) : Option Nat :=
  if c.isDigit then some (c.toNat - '0'.toNat)
  else if 'a' ≤ c ∧ c ≤ 'f' then some (c.toNat - 'a'.toNat + 10)
  else if 'A' ≤ c ∧ c ≤ 'F' then some (c.toNat - 'A'.toNat + 10)
  else none

def byteSize (cs : List Char) : Nat := (String.ofList cs).utf8ByteSize

/-- Four hexadecimal digits. Fewer than four bytes before the end mean that the text is cut off. -/
def hexWord (cs : List Char) : Except ReadFault Nat :=
  match cs with
  | a :: b :: c :: d :: _ =>
    match hexValue? a, hexValue? b, hexValue? c, hexValue? d with
    | some a, some b, some c, some d => .ok (((a * 16 + b) * 16 + c) * 16 + d)
    | _, _, _, _ => .error .malformed
  | short => .error (if byteSize short < 4 then .truncated else .malformed)

def isHighSurrogate (n : Nat) : Bool := 0xD800 ≤ n && n ≤ 0xDBFF

def isLowSurrogate (n : Nat) : Bool := 0xDC00 ≤ n && n ≤ 0xDFFF

/-- The escape of one character by its code units, after the letter u; the second half of a pair
follows as an escape of its own. Returns the character and the number of characters used. -/
def unicodeEscape (cs : List Char) : Except ReadFault (Char × Nat) := do
  let high ← hexWord cs
  if isLowSurrogate high then throw .malformed
  if !isHighSurrogate high then return (Char.ofNat high, 4)
  match cs.drop 4 with
  | [] => throw .truncated
  | ['\\'] => throw .truncated
  | '\\' :: 'u' :: rest =>
    let low ← hexWord rest
    if !isLowSurrogate low then throw .malformed
    return (Char.ofNat (0x10000 + (high - 0xD800) * 0x400 + (low - 0xDC00)), 10)
  | _ => throw .malformed

def simpleEscape? (c : Char) : Option Char :=
  if c = '"' ∨ c = '\\' ∨ c = '/' then some c
  else if c = 'b' then some (Char.ofNat 0x08)
  else if c = 'f' then some (Char.ofNat 0x0C)
  else if c = 'n' then some '\n'
  else if c = 'r' then some '\r'
  else if c = 't' then some '\t'
  else none

def textChars (cs : List Char) : Except ReadFault (List Char × List Char) :=
  match cs with
  | [] => .error .truncated
  | '"' :: rest => .ok ([], rest)
  | ['\\'] => .error .truncated
  | '\\' :: 'u' :: rest => do
    let (c, used) ← unicodeEscape rest
    let (more, rest) ← textChars (rest.drop used)
    return (c :: more, rest)
  | '\\' :: e :: rest => do
    let some c := simpleEscape? e | throw .malformed
    let (more, rest) ← textChars rest
    return (c :: more, rest)
  | c :: rest => do
    if c.toNat < 0x20 then throw .malformed
    let (more, rest) ← textChars rest
    return (c :: more, rest)
termination_by cs.length
decreasing_by all_goals simp_wf <;> omega

def text (cs : List Char) : Except ReadFault (String × List Char) := do
  let (chars, rest) ← textChars cs
  return (String.ofList chars, rest)

def skipText (cs : List Char) : Except ReadFault (List Char) :=
  match cs with
  | [] => .error .truncated
  | '"' :: rest => .ok rest
  | ['\\'] => .error .truncated
  | '\\' :: 'u' :: rest => do
    let _ ← hexWord rest
    skipText (rest.drop 4)
  | '\\' :: e :: rest => do
    if (simpleEscape? e).isNone then throw .malformed
    skipText rest
  | c :: rest => do
    if c.toNat < 0x20 then throw .malformed
    skipText rest
termination_by cs.length
decreasing_by all_goals simp_wf <;> omega

def wordLimit : Nat := 0xFFFFFFFFFFFFFFFF

def digitValue (c : Char) : Nat := c.toNat - '0'.toNat

/-- The digits of a decimal as far as they fit in a word, and the power of ten they stand for. -/
structure Significand where
  value : Nat
  power : Int
  full : Bool

/-- A digit before the point that no longer fits counts as a power of ten. -/
def Significand.pushWhole (s : Significand) (c : Char) : Significand :=
  let next := s.value * 10 + digitValue c
  if s.full ∨ wordLimit < next then { s with power := s.power + 1, full := true }
  else { s with value := next }

/-- A digit after the point that no longer fits is dropped with all that follow. -/
def Significand.pushPlace (s : Significand) (c : Char) : Significand :=
  let next := s.value * 10 + digitValue c
  if s.full ∨ wordLimit < next then { s with full := true }
  else { s with value := next, power := s.power - 1 }

def natOfDigits (ds : List Char) : Nat := ds.foldl (fun n c => n * 10 + digitValue c) 0

/-- Exponents are kept within 32 bits; a larger one makes every number overflow or vanish. -/
def exponentLimit : Nat := 0x7FFFFFFF

def exponent (cs : List Char) : Except ReadFault ((Bool × Nat) × List Char) :=
  let (negative, cs) := match cs with
    | '+' :: rest => (false, rest)
    | '-' :: rest => (true, rest)
    | rest => (false, rest)
  match cs with
  | [] => .error .truncated
  | c :: _ =>
    if c.isDigit then
      .ok ((negative, natOfDigits (cs.takeWhile Char.isDigit)), cs.dropWhile Char.isDigit)
    else .error .malformed

def scaled (negative : Bool) (s : Significand) (negativeExponent : Bool) (e : Nat) :
    Except ReadFault Json :=
  if exponentLimit < e then
    if s.value ≠ 0 ∧ !negativeExponent then .error .malformed
    else .ok (.float (Double.ofFloat (if negative then -0.0 else 0.0)))
  else
    let power := if negativeExponent then s.power - e else s.power + e
    match Double.ofScaled negative s.value power with
    | some x => .ok (.float x)
    | none => .error .malformed

def scaledWithExponent (negative : Bool) (s : Significand) (cs : List Char) :
    Except ReadFault (Json × List Char) :=
  match cs with
  | 'e' :: rest | 'E' :: rest => do
    let ((negativeExponent, e), rest) ← exponent rest
    return (← scaled negative s negativeExponent e, rest)
  | rest => do return (← scaled negative s false 0, rest)

/-- A whole number that fits in 64 bits is exact, and zero with a sign is a fraction. -/
def whole (negative : Bool) (s : Significand) : Except ReadFault Json :=
  if s.full then scaled negative s false 0
  else if !negative then .ok (.int s.value)
  else if s.value ≠ 0 ∧ s.value ≤ 0x8000000000000000 then .ok (.int (-(s.value : Int)))
  else scaled true s false 0

def number (negative : Bool) (cs : List Char) : Except ReadFault (Json × List Char) :=
  match cs with
  | [] => .error .truncated
  | c :: after =>
    if !c.isDigit then .error .malformed
    else if c = '0' ∧ (after.head?.any Char.isDigit) then .error .malformed
    else
      let s := (cs.takeWhile Char.isDigit).foldl Significand.pushWhole ⟨0, 0, false⟩
      match cs.dropWhile Char.isDigit with
      | '.' :: rest =>
        match rest with
        | [] => .error .truncated
        | d :: _ =>
          if !d.isDigit then .error .malformed
          else
            let s := (rest.takeWhile Char.isDigit).foldl Significand.pushPlace
              { s with full := false }
            scaledWithExponent negative s (rest.dropWhile Char.isDigit)
      | 'e' :: rest => scaledWithExponent negative s ('e' :: rest)
      | 'E' :: rest => scaledWithExponent negative s ('E' :: rest)
      | rest => do return (← whole negative s, rest)

def skipDigits (cs : List Char) : Except ReadFault (List Char) :=
  if cs.head?.any Char.isDigit then .ok (cs.dropWhile Char.isDigit) else .error .malformed

def skipExponent (cs : List Char) : Except ReadFault (List Char) :=
  match cs with
  | 'e' :: rest | 'E' :: rest =>
    match rest with
    | '+' :: rest | '-' :: rest => skipDigits rest
    | rest => skipDigits rest
  | rest => .ok rest

/-- Passes over a number after its sign. One that ends early is malformed, whatever follows. -/
def skipNumber (cs : List Char) : Except ReadFault (List Char) := do
  if cs.head? = some '0' ∧ (cs.tail.head?.any Char.isDigit) then throw .malformed
  let rest ← skipDigits cs
  match rest with
  | '.' :: rest => skipExponent (← skipDigits rest)
  | rest => skipExponent rest

def expectWord : List Char → List Char → Except ReadFault (List Char)
  | [], cs => .ok cs
  | _ :: _, [] => .error .truncated
  | w :: word, c :: cs => if w = c then expectWord word cs else .error .malformed

def scalar (cs : List Char) : Except ReadFault (Json × List Char) :=
  match cs with
  | [] => .error .truncated
  | 'n' :: rest => do return (.null, ← expectWord ['u', 'l', 'l'] rest)
  | 't' :: rest => do return (.bool true, ← expectWord ['r', 'u', 'e'] rest)
  | 'f' :: rest => do return (.bool false, ← expectWord ['a', 'l', 's', 'e'] rest)
  | '"' :: rest => do
    let (s, rest) ← text rest
    return (.str s, rest)
  | '-' :: rest => number true rest
  | c :: rest => if c.isDigit then number false (c :: rest) else .error .malformed

def skipScalar (cs : List Char) : Except ReadFault (List Char) :=
  match cs with
  | '"' :: rest => skipText rest
  | '-' :: rest => skipNumber rest
  | c :: rest => if c.isDigit then skipNumber (c :: rest) else (scalar (c :: rest)).map (·.2)
  | [] => .error .truncated

def afterEntry (close : Char) (cs : List Char) : Except ReadFault (Bool × List Char) :=
  match skipBlanks cs with
  | [] => .error .truncated
  | c :: rest =>
    if c = close then .ok (false, rest)
    else if c = ',' then
      match skipBlanks rest with
      | [] => .error .truncated
      | d :: after => if d = close then .error .malformed else .ok (true, d :: after)
    else .error .malformed

def key (cs : List Char) : Except ReadFault (String × List Char) :=
  match cs with
  | '"' :: rest => text rest
  | [] => .error .truncated
  | _ => .error .malformed

def colon (cs : List Char) : Except ReadFault (List Char) :=
  match skipBlanks cs with
  | [] => .error .truncated
  | c :: rest => if c = ':' then .ok rest else .error .malformed

/-- The items of a list after its first one is known to follow. The fuel is the number of
characters left, and every item takes at least one. -/
def itemsFrom {α : Type} (item : List Char → Except ReadFault (α × List Char)) :
    Nat → List Char → Except ReadFault (List α × List Char)
  | 0, _ => .error .truncated
  | fuel + 1, cs => do
    let (x, rest) ← item cs
    let (more, rest) ← afterEntry ']' rest
    if more then
      let (xs, rest) ← itemsFrom item fuel rest
      return (x :: xs, rest)
    else return ([x], rest)

def items {α : Type} (item : List Char → Except ReadFault (α × List Char)) (cs : List Char) :
    Except ReadFault (List α × List Char) :=
  match skipBlanks cs with
  | [] => .error .truncated
  | ']' :: rest => .ok ([], rest)
  | rest => itemsFrom item (rest.length + 1) rest

def membersFrom {σ : Type} (member : σ → String → List Char → Except ReadFault (σ × List Char)) :
    Nat → σ → List Char → Except ReadFault (σ × List Char)
  | 0, _, _ => .error .truncated
  | fuel + 1, s, cs => do
    let (k, rest) ← key cs
    let (s, rest) ← member s k rest
    let (more, rest) ← afterEntry '\x7d' rest
    if more then membersFrom member fuel s rest else return (s, rest)

/-- The members of an object after its opening brace. The colon is left to the member's reader,
which may refuse the key before it. -/
def members {σ : Type} (member : σ → String → List Char → Except ReadFault (σ × List Char))
    (s : σ) (cs : List Char) : Except ReadFault (σ × List Char) :=
  match skipBlanks cs with
  | [] => .error .truncated
  | '\x7d' :: rest => .ok (s, rest)
  | rest => membersFrom member (rest.length + 1) s rest

def skipMembersFrom (value : List Char → Except ReadFault (List Char)) :
    Nat → List Char → Except ReadFault (List Char)
  | 0, _ => .error .truncated
  | _ + 1, [] => .error .truncated
  | fuel + 1, '"' :: rest => do
    let rest ← value (← colon (← skipText rest))
    let (more, rest) ← afterEntry '\x7d' rest
    if more then skipMembersFrom value fuel rest else return rest
  | _ + 1, _ => .error .malformed

def skipMembers (value : List Char → Except ReadFault (List Char)) (cs : List Char) :
    Except ReadFault (List Char) :=
  match skipBlanks cs with
  | '\x7d' :: rest => .ok rest
  | rest => skipMembersFrom value (rest.length + 1) rest

def skip : Nat → List Char → Except ReadFault (List Char)
  | 0, _ => .error .truncated
  | fuel + 1, cs =>
    match skipBlanks cs with
    | '[' :: rest => do
      let (_, rest) ← items (fun cs => do return ((), ← skip fuel cs)) rest
      return rest
    | '\x7b' :: rest => skipMembers (skip fuel) rest
    | rest => skipScalar rest

def value : Nat → List Char → Except ReadFault (Json × List Char)
  | 0, _ => .error .truncated
  | fuel + 1, cs =>
    match skipBlanks cs with
    | '[' :: rest => do
      let (xs, rest) ← items (value fuel) rest
      return (.arr xs, rest)
    | '\x7b' :: rest => do
      let add (fields : List (String × Json)) (k : String) (cs : List Char) :
          Except ReadFault (List (String × Json) × List Char) := do
        let (v, rest) ← value fuel (← colon cs)
        return ((k, v) :: fields, rest)
      let (fields, rest) ← members add [] rest
      return (.obj fields.reverse, rest)
    | rest => scalar rest

def finish (cs : List Char) : Except ReadFault Unit :=
  if (skipBlanks cs).isEmpty then .ok () else .error .malformed

end Reader

def parse (source : String) : Except ReadFault Json := do
  let cs := source.toList
  let (v, rest) ← Reader.value (cs.length + 1) cs
  Reader.finish rest
  return v

end Lateral.Json
