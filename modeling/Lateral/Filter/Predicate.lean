import Lateral.Filter
import Lateral.Schema
import Lateral.Sql.Name
import Lateral.Sql.Template
import Lateral.Text.Printable

/-!
Conditions worked out against a schema: the column is known, the operand has the form that its
operator needs, and a path of related tables has become a chain of tests for existence.
-/

namespace Lateral

inductive Literal where
  | null
  | bool (value : Bool)
  | int (value : Int64)
  | float (value : Double)
  | text (value : String)
  | variable (name : String) (sqlType : String)
  deriving DecidableEq, Repr

/-- Numbers in statements are written in places, without a point if they are whole. -/
def Literal.numberLayout : Decimal.Layout where
  places := none
  keepsPoint := false
  signsExponent := false
  tie := .up

def Literal.sql : Literal → Template
  | .null => "NULL"
  | .bool true => "true"
  | .bool false => "false"
  | .int n => toString n.toInt
  | .float x => x.render Literal.numberLayout
  | .text s => Text.quote s
  | .variable name sqlType => (Argument.variable name).typed sqlType

inductive Comparand where
  | single (value : Literal)
  /-- One value where a list could stand. -/
  | inParens (value : Literal)
  | list (values : List Literal)
  | array (values : List Literal)
  deriving DecidableEq, Repr

def Comparand.sql : Comparand → Template
  | .single value => value.sql
  | .inParens value => "(" ++ value.sql ++ ")"
  | .list values => "(" ++ Template.join ", " (values.map Literal.sql) ++ ")"
  | .array values => "array[" ++ Template.join ", " (values.map Literal.sql) ++ "]"

def Operator.symbol : Operator → String
  | .equals | .equalsId => " = "
  | .notEquals => " != "
  | .greaterThan => " > "
  | .greaterOrEquals => " >= "
  | .lesserThan => " < "
  | .lesserOrEquals => " <= "
  | .isIn => " IN "
  | .notIn => " NOT IN "
  | .like => " LIKE "
  | .notLike => " NOT LIKE "
  | .iLike => " ILIKE "
  | .notILike => " NOT ILIKE "
  | .similar => " SIMILAR TO "
  | .notSimilar => " NOT SIMILAR TO "
  | .contains => " @> "
  | .containedIn => " <@ "
  | .hasKey => " ? "
  | .hasKeyAny => " ?| "
  | .hasKeyAll => " ?& "
  | .isNull => " IS "
  | .textSearch => " @@ "

def Operator.takesArray (op : Operator) : Bool := op = .hasKeyAny || op = .hasKeyAll

def Operator.takesMany (op : Operator) : Bool := op = .isIn || op = .notIn || op.takesArray

inductive Predicate where
  | constant (holds : Bool)
  | compare (column : Sql.ColumnRef) (op : Operator) (operand : Comparand)
  | nullness (column : Sql.ColumnRef) (wanted : Bool)
  | search (column : Sql.ColumnRef) (function : String) (words : Argument)
  deriving DecidableEq, Repr

def truthSql (b : Bool) : String := if b then "true" else "false"

def Predicate.sql : Predicate → Template
  | .constant holds => truthSql holds
  | .compare column op operand => "((" ++ column.sql ++ ")" ++ op.symbol ++ operand.sql ++ ")"
  | .nullness column wanted =>
    "((" ++ column.sql ++ (if wanted then ") IS NULL)" else ") IS NOT NULL)")
  | .search column function words =>
    "((" ++ column.sql ++ ") @@ " ++ function ++ "(" ++ words.literal ++ "))"

def elementType (sqlType : String) : String :=
  match sqlType.toList.reverse with
  | ']' :: '[' :: rest => String.ofList rest.reverse
  | _ => sqlType

namespace Operand

/-- A single value, cast to a type if it is that of a variable. -/
def literal? (sqlType : String) : Operand → Option Literal
  | .null => some .null
  | .bool b => some (.bool b)
  | .int n => some (.int n)
  | .float x => some (.float x)
  | .text s => some (.text s)
  | .variable name => some (.variable name sqlType)
  | .list _ => none

def literals (sqlType : String) (items : List Operand) : Except Error (List Literal) :=
  items.mapM fun item => match item.literal? (elementType sqlType) with
    | some value => .ok value
    | none => .error (.invalidFilter .nestedList)

def comparand (op : Operator) (sqlType : String) (operand : Operand) : Except Error Comparand :=
  match operand with
  | .list items =>
    if op.takesArray then (literals sqlType items).map .array
    else (literals sqlType items).map .list
  | single => match single.literal? sqlType with
    | some value => .ok (if op.takesMany then .inParens value else .single value)
    | none => .error (.invalidFilter .nestedList)

/-- Numbers in messages keep a point, and have an exponent outside of 1e-4 to 1e16. -/
def describedNumber : Decimal.Layout where
  places := some (-4, 16)
  keepsPoint := true
  signsExponent := false
  tie := .up

/-- A character of a text in a message. One that cannot be seen on its own stands as its code. -/
def describeChar (c : Char) : List Char :=
  if c = '"' then ['\\', '"']
  else if c = '\\' then ['\\', '\\']
  else if c = '\n' then ['\\', 'n']
  else if c = '\t' then ['\\', 't']
  else if c = '\r' then ['\\', 'r']
  else if c = '\x00' then ['\\', '0']
  else if Text.isPrintable c then [c]
  else ['\\', 'u', '\x7b'] ++ Nat.toDigits 16 c.toNat ++ ['\x7d']

def describeText (s : String) : String :=
  "\"" ++ String.ofList (s.toList.flatMap describeChar) ++ "\""

mutual

def describe : Operand → String
  | .null => "Null"
  | .bool b => "Bool(" ++ truthSql b ++ ")"
  | .int n => "Int(" ++ toString n.toInt ++ ")"
  | .float x => "Float(" ++ x.render describedNumber ++ ")"
  | .text s => "Str(" ++ describeText s ++ ")"
  | .list items => "List([" ++ describeItems items ++ "])"
  | .variable name => "Var(" ++ describeText name ++ ")"

def describeItems : List Operand → String
  | [] => ""
  | [item] => describe item
  | item :: rest => describe item ++ ", " ++ describeItems rest

end

end Operand

namespace Condition

def searchWords : Operand → Except Error Argument
  | .variable name => .ok (.variable name)
  | .text s => .ok (.fixed s)
  | other => .error (.invalidFilter (.searchOperand other.describe))

/-- A comparison with a list of nothing is decided at once, or makes no sense. -/
def emptyListPredicate (op : Operator) (column : Column) : Except Error Predicate :=
  match op with
  | .isIn => .ok (.constant false)
  | .notIn => .ok (.constant true)
  | _ => .error (.invalidFilter (.emptyList column.name))

def predicate (s : Schema) (t : Table) (c : Condition) : Except Error Predicate := do
  match c.operator with
  | .equalsId =>
    let key ← t.primary c.column
    return .compare ⟨t.name, key.name⟩ .equalsId (← c.operand.comparand .equalsId key.sqlType)
  | .textSearch =>
    let column ← t.searchColumn
    return .search ⟨t.name, column.name⟩ s.searchFunction (← searchWords c.operand)
  | .isNull =>
    let column ← t.column c.column
    let wanted := match c.operand with
      | .bool false => false
      | _ => true
    return .nullness ⟨t.name, column.name⟩ wanted
  | op =>
    let column ← t.column c.column
    match c.operand with
    | .list [] => emptyListPredicate op column
    | operand => return .compare ⟨t.name, column.name⟩ op (← operand.comparand op column.sqlType)

end Condition

/-- A step of a path: the rows of a related table that belong to a row of the table before. -/
structure Hop where
  table : String
  join : Option Sql.JunctionJoin
  condition : Sql.Equation
  deriving DecidableEq, Repr

def Hop.sql (h : Hop) : String :=
  "EXISTS (SELECT 1 FROM " ++ Sql.name h.table ++ (h.join.map Sql.JunctionJoin.sql).getD "" ++
    " WHERE " ++ h.condition.sql

/-- The step from a table to a related one. Neither a remote table nor the table itself can be
reached in this way. -/
def Hop.between (s : Schema) (parent : Table) (name : String) : Except Error (Hop × Table) := do
  let e ← s.edge name parent.name
  if e.isRemote then throw (.unusableEdge name parent.name .remoteFilter)
  let child ← s.table name
  if child.key = parent.key then throw (.unusableEdge name parent.name .selfFilter)
  return (⟨child.name, Sql.junctionJoin? e parent.name, Sql.edgeCondition e parent.name⟩, child)

def Hop.along (s : Schema) : Table → List String → Except Error (List Hop × Table)
  | t, [] => .ok ([], t)
  | t, name :: path => do
    let (hop, child) ← Hop.between s t name
    let (hops, last) ← Hop.along s child path
    return (hop :: hops, last)

structure Leaf where
  hops : List Hop
  predicate : Predicate
  deriving DecidableEq, Repr

def Leaf.sql (l : Leaf) : Template :=
  match l.hops with
  | [] => l.predicate.sql
  | hops =>
    String.intercalate " AND " (hops.map Hop.sql) ++ " AND (" ++ l.predicate.sql ++ ")" ++
      String.ofList (List.replicate hops.length ')')

def Condition.leaf (s : Schema) (t : Table) (c : Condition) : Except Error Leaf := do
  let (hops, last) ← Hop.along s t c.path
  return ⟨hops, ← c.predicate s last⟩

end Lateral
