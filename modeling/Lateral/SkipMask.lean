import Lateral.Error

/-!
The selections that a statement leaves out, to be resolved by the caller: a set of the ids below 64.
-/

namespace Lateral

structure SkipMask where
  bits : UInt64 := 0
  deriving DecidableEq, Repr, Inhabited

namespace SkipMask

def width : Nat := 64

def contains (m : SkipMask) (id : Nat) : Bool := m.bits.toNat.testBit id

def insert (m : SkipMask) (id : Nat) : SkipMask := ⟨m.bits ||| UInt64.ofNat (Nat.pow 2 id)⟩

def require (id : Nat) : Except Error Unit :=
  if id < width then .ok () else .error (.unskippable id)

theorem require_eq_ok {id : Nat} : require id = .ok () ↔ id < width := by
  unfold require
  by_cases fits : id < width
  · simp [fits]
  · simp [fits]

def set (m : SkipMask) (id : Nat) : Except Error SkipMask := do
  require id
  return m.insert id

def isEmpty (m : SkipMask) : Bool := m.bits = 0

def ids (m : SkipMask) : List Nat := (List.range width).filter m.contains

def ofIds (ids : List Nat) : SkipMask := ids.foldl insert {}

end SkipMask

end Lateral
