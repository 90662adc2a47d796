import Lateral.Decimal.Double

/-!
The shortest decimal of a double: the fewest digits that read back as the same number, and of those
the nearest to it. With k digits there are two candidates, the neighbours of the number on the grid
of decimals with k digits, so the first grid with a neighbour between the midpoints to the adjacent
doubles decides.
-/

namespace Lateral

inductive Tie where
  | up
  | toEven
  deriving DecidableEq, Repr

namespace Decimal

def digitCount (n : Nat) : Nat := if n = 0 then 0 else (Nat.toDigits 10 n).length

/-- The e with 10 ^ e ≤ num / den < 10 ^ (e + 1), for a positive quotient. -/
def leadingExponent (num den : Nat) : Int :=
  if den ≤ num then (digitCount (num / den) : Int) - 1
  else - (digitCount ((den + num - 1) / num - 1) : Int)

/-- A positive number and the midpoints to its neighbours, over a common denominator. -/
structure Interval where
  low : Nat
  value : Nat
  high : Nat
  den : Nat
  closed : Bool
  deriving Repr

/-- All bounds carry a factor of four, which keeps the midpoints whole. -/
def Interval.ofDouble (x : Double) : Interval :=
  let m := 4 * x.significand
  let q := x.scale - 2
  let up := Nat.pow 2 q.toNat
  { low := (if x.isLowerGapHalf then m - 1 else m - 2) * up
    value := m * up
    high := (m + 2) * up
    den := Nat.pow 2 (-q).toNat
    closed := x.significand % 2 == 0 }

def Interval.inUnits (i : Interval) (p : Int) : Interval :=
  let up := Nat.pow 10 (-p).toNat
  { low := i.low * up
    value := i.value * up
    high := i.high * up
    den := i.den * Nat.pow 10 p.toNat
    closed := i.closed }

/-- The neighbour on the grid of whole units that reads back, the nearer one if both do. -/
def Interval.neighbour? (i : Interval) (tie : Tie) : Option Nat :=
  let n := i.value / i.den
  let above := if i.closed then i.low ≤ n * i.den else i.low < n * i.den
  let below := if i.closed then (n + 1) * i.den ≤ i.high else (n + 1) * i.den < i.high
  if above ∧ below then
    let twice := 2 * (i.value % i.den)
    if twice < i.den then some n
    else if i.den < twice then some (n + 1)
    else match tie with
      | .up => some (n + 1)
      | .toEven => some (if n % 2 = 0 then n else n + 1)
  else if above then some n
  else if below then some (n + 1)
  else none

/-- Tries the grids of k, k + 1, … digits. Seventeen digits always suffice. -/
def search (i : Interval) (e : Int) (tie : Tie) : Nat → Nat → Nat × Int
  | 0, _ => (0, 0)
  | more + 1, k =>
    let p := e - k + 1
    match (i.inUnits p).neighbour? tie with
    | some n => (n, p)
    | none => search i e tie more (k + 1)

def dropZeros : Nat → Nat × Int → Nat × Int
  | 0, d => d
  | fuel + 1, (n, p) => if n ≠ 0 ∧ n % 10 = 0 then dropZeros fuel (n / 10, p + 1) else (n, p)

/-- Digits n and power p of the shortest decimal n * 10 ^ p of a finite double, without the sign. -/
def shortest (tie : Tie) (x : Double) : Nat × Int :=
  if x.significand = 0 then (0, 0)
  else
    let i := Interval.ofDouble x
    dropZeros 18 (search i (leadingExponent i.value i.den) tie 17 1)

structure Layout where
  /-- Exponents of the first digit that are written out in places, nothing meaning all. -/
  places : Option (Int × Int)
  /-- A whole number written in places keeps a zero after the point. -/
  keepsPoint : Bool
  /-- A positive exponent carries a plus sign. -/
  signsExponent : Bool
  tie : Tie
  deriving Repr

def zeros (n : Nat) : String := String.ofList (List.replicate n '0')

def inPlaces (keepsPoint : Bool) (n : Nat) (p : Int) : String :=
  let digits := Nat.toDigits 10 n
  let whole := if keepsPoint then ".0" else ""
  if 0 ≤ p then String.ofList digits ++ zeros p.toNat ++ whole
  else
    let count := (-p).toNat
    if count < digits.length then
      String.ofList (digits.take (digits.length - count)) ++ "." ++
        String.ofList (digits.drop (digits.length - count))
    else "0." ++ zeros (count - digits.length) ++ String.ofList digits

def withExponent (signsExponent : Bool) (n : Nat) (e : Int) : String :=
  let mantissa := match Nat.toDigits 10 n with
    | [] => ""
    | [d] => String.ofList [d]
    | d :: rest => String.ofList (d :: '.' :: rest)
  let sign := if e < 0 then "-" else if signsExponent then "+" else ""
  mantissa ++ "e" ++ sign ++ toString e.natAbs

def magnitude (layout : Layout) (x : Double) : String :=
  let (n, p) := shortest layout.tie x
  let e := p + (Nat.toDigits 10 n).length - 1
  match layout.places with
  | none => inPlaces layout.keepsPoint n p
  | some (least, limit) =>
    if n = 0 ∨ (least ≤ e ∧ e < limit) then inPlaces layout.keepsPoint n p
    else withExponent layout.signsExponent n e

end Decimal

def Double.render (layout : Decimal.Layout) (x : Double) : String :=
  if x.isFinite then (if x.isNegative then "-" else "") ++ Decimal.magnitude layout x
  else if x.fraction ≠ 0 then "NaN"
  else if x.isNegative then "-inf"
  else "inf"

end Lateral
