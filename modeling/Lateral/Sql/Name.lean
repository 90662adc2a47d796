import Lateral.Schema.Edge
import Lateral.Text.Quoted

/-!
Names in statements, and the equations that relate the rows of two tables.
-/

namespace Lateral.Sql

def name (s : String) : String := "\"" ++ s ++ "\""

def numbered (base : String) (id : Nat) : String := base ++ "_" ++ toString id

theorem numbered_digits (base : String) (n : Nat) :
    ((numbered base n).toList.reverse.takeWhile Char.isDigit).reverse = Nat.toDigits 10 n := by
  have spelled : (numbered base n).toList = base.toList ++ '_' :: Nat.toDigits 10 n := by
    simp [numbered]
  have digits : ∀ c ∈ (Nat.toDigits 10 n).reverse, c.isDigit = true := by
    intro c member
    exact Nat.isDigit_of_mem_toDigits (by omega) (by omega) (List.mem_reverse.mp member)
  have mark : '_'.isDigit = false := by decide
  rw [spelled, List.reverse_append, List.reverse_cons, List.append_assoc,
    List.takeWhile_append_of_pos digits, List.singleton_append, List.takeWhile_cons, mark]
  simp

theorem numbered_injective {base other : String} {m n : Nat}
    (same : numbered base m = numbered other n) : base = other ∧ m = n := by
  have digits : Nat.toDigits 10 m = Nat.toDigits 10 n := by
    rw [← numbered_digits base m, same, numbered_digits]
  have number : m = n := by
    rw [← Nat.ofDigitChars_toDigits (b := 10) (n := m) (by omega) (by omega), digits,
      Nat.ofDigitChars_toDigits (by omega) (by omega)]
  subst number
  exact ⟨by simpa [numbered, String.ext_iff] using same, rfl⟩

def asName (s : String) : String := " AS " ++ name s

structure ColumnRef where
  source : String
  column : String
  deriving DecidableEq, Repr

def ColumnRef.sql (c : ColumnRef) : String := name c.source ++ "." ++ name c.column

def typed (value sqlType : String) : String := Text.quote value ++ " :: " ++ sqlType

def placeholder (variableName sqlType : String) : String :=
  "'\x7b\x7b" ++ variableName ++ "\x7d\x7d' :: " ++ sqlType

def integer (value : String) : String := "(" ++ Text.quote value ++ ") :: integer"

/-- An equation of two columns, or of a column with some element of a list column. -/
structure Equation where
  left : ColumnRef
  right : ColumnRef
  anyOfRight : Bool := false
  deriving DecidableEq, Repr

def Equation.sql (e : Equation) : String :=
  "((" ++ e.left.sql ++ (if e.anyOfRight then ") = any (" else ") = (") ++ e.right.sql ++ "))"

/-- Relates two endpoints under the names that their rows have. If one holds a list, it goes to the
right. -/
def Equation.between (left : Endpoint) (leftName : String) (right : Endpoint) (rightName : String) :
    Equation :=
  let l : ColumnRef := ⟨leftName, left.column⟩
  let r : ColumnRef := ⟨rightName, right.column⟩
  if !left.array && right.array then ⟨l, r, true⟩
  else if left.array && !right.array then ⟨r, l, true⟩
  else ⟨l, r, false⟩

structure JunctionJoin where
  junction : String
  condition : Equation
  deriving DecidableEq, Repr

def JunctionJoin.sql (j : JunctionJoin) : String :=
  " LEFT OUTER JOIN " ++ name j.junction ++ " ON " ++ j.condition.sql

def junctionJoin? (e : Edge) (parent : String) : Option JunctionJoin :=
  e.junction?.map fun j =>
    ⟨j.table, .between ⟨j.table, j.rightColumn, false⟩ j.table e.right parent⟩

/-- What a child's row has in common with its parent's row, or with that of the junction between. -/
def edgeCondition (e : Edge) (parent : String) : Equation :=
  match e.junction? with
  | some j => .between e.left e.left.table ⟨j.table, j.leftColumn, false⟩ j.table
  | none => .between e.left e.left.table e.right parent

end Lateral.Sql
