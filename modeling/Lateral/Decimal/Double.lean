/-!
Double-precision numbers by their bits: sign, exponent and fraction, and the exact value m * 2 ^ q
of a finite one. A decimal is read in one scaling step, so its last bit may differ from the nearest
double when it has more digits than a double can tell apart.
-/

namespace Lateral

/-- A double-precision number, told apart by its bits: the two zeros differ. -/
structure Double where
  bits : UInt64
  deriving DecidableEq, Repr, Inhabited

namespace Double

def ofFloat (x : Float) : Double := ⟨x.toBits⟩

def isNegative (x : Double) : Bool := x.bits.toNat / Nat.pow 2 63 == 1

def exponentField (x : Double) : Nat := x.bits.toNat / Nat.pow 2 52 % Nat.pow 2 11

def fraction (x : Double) : Nat := x.bits.toNat % Nat.pow 2 52

def isFinite (x : Double) : Bool := x.exponentField != 2047

/-- The m of the value m * 2 ^ q, without the sign. -/
def significand (x : Double) : Nat :=
  if x.exponentField = 0 then x.fraction else Nat.pow 2 52 + x.fraction

def scale (x : Double) : Int :=
  if x.exponentField = 0 then -1074 else (x.exponentField : Int) - 1075

/-- The gap below a power of two is half the gap above it, the least normal number apart. -/
def isLowerGapHalf (x : Double) : Bool := x.fraction == 0 && x.exponentField > 1

def ofInt (n : Int) : Double := ofFloat (Float.ofInt n)

def powerOfTen (n : Nat) : Float := Float.ofScientific 1 false n

/-- The value f * 10 ^ e in double arithmetic, nothing when it overflows. Exponents below the table
of powers are reached in steps of 308. -/
def scaleFloat (f : Float) (e : Int) : Option Float :=
  if 0 ≤ e then
    if e ≤ 308 then
      let scaled := f * powerOfTen e.toNat
      if scaled.isInf then none else some scaled
    else if f == 0 then some f
    else none
  else if -308 ≤ e then some (f / powerOfTen (-e).toNat)
  else if f == 0 then some f
  else scaleFloat (f / powerOfTen 308) (e + 308)
termination_by (-e).toNat

def ofScaled (negative : Bool) (significand : Nat) (e : Int) : Option Double :=
  (scaleFloat (UInt64.ofNat significand).toFloat e).map fun f =>
    ofFloat (if negative then -f else f)

end Double

end Lateral
