import Lateral.Filter.Tokens
import Lateral.Sql.Value

/-!
Filters as text, with the bindings of variables at hand. Each condition is looked up in the schema
and written at once, values and all.
-/

namespace Lateral

namespace Operand

def scalarText? (b : Bindings) (sqlType : String) : Operand → Option String
  | .null => some "NULL"
  | .bool value => some (truthSql value)
  | .int n => some (toString n.toInt)
  | .float x => some (x.render Literal.numberLayout)
  | .text s => some (Text.quote s)
  | .variable name => some (b.typed name sqlType)
  | .list _ => none

def writeScalar (b : Bindings) (sqlType : String) (operand : Operand) : Except Error String :=
  match operand.scalarText? b sqlType with
  | some value => .ok value
  | none => .error (.invalidFilter .nestedList)

def write (b : Bindings) (sqlType : String) (asArray : Bool) : Operand → Except Error String
  | .list items => do
    let texts ← items.mapM (writeScalar b (elementType sqlType))
    let inner := String.intercalate ", " texts
    return if asArray then "array[" ++ inner ++ "]" else "(" ++ inner ++ ")"
  | scalar => scalar.writeScalar b sqlType

def isList : Operand → Bool
  | .list _ => true
  | _ => false

end Operand

namespace Condition

def writeWords (b : Bindings) : Operand → Except Error String
  | .variable name => .ok (b.literal name)
  | .text s => .ok (Text.quote s)
  | other => .error (.invalidFilter (.searchOperand other.describe))

def writeEmptyList (column : Column) : Operator → Except Error String
  | .isIn => .ok "false"
  | .notIn => .ok "true"
  | _ => .error (.invalidFilter (.emptyList column.name))

def writeComparison (b : Bindings) (t : Table) (column : Column) (op : Operator)
    (operand : Operand) : Except Error String := do
  let value ← operand.write b column.sqlType op.takesArray
  let value := if op.takesMany && !operand.isList then "(" ++ value ++ ")" else value
  return "((" ++ (Sql.ColumnRef.mk t.name column.name).sql ++ ")" ++ op.symbol ++ value ++ ")"

def write (b : Bindings) (s : Schema) (t : Table) (c : Condition) : Except Error String :=
  match c.operator with
  | .equalsId => do
    let key ← t.primary c.column
    writeComparison b t key .equalsId c.operand
  | .textSearch => do
    let column ← t.searchColumn
    let words ← writeWords b c.operand
    return "((" ++ (Sql.ColumnRef.mk t.name column.name).sql ++ ") @@ " ++ s.searchFunction ++
      "(" ++
      words ++ "))"
  | .isNull => do
    let column ← t.column c.column
    let test := match c.operand with
      | .bool false => ") IS NOT NULL)"
      | _ => ") IS NULL)"
    return "((" ++ (Sql.ColumnRef.mk t.name column.name).sql ++ test
  | op => do
    let column ← t.column c.column
    match c.operand with
    | .list [] => writeEmptyList column op
    | operand => writeComparison b t column op operand

def writeNested (b : Bindings) (s : Schema) (t : Table) (c : Condition) : Except Error String := do
  let (hops, last) ← Hop.along s t c.path
  let inner ← c.write b s last
  return String.intercalate " AND " (hops.map Hop.sql) ++ " AND (" ++ inner ++ ")" ++
    String.ofList (List.replicate hops.length ')')

end Condition

namespace Filter

def textScript (b : Bindings) (s : Schema) (t : Table) : Script String where
  opening := "("
  closing := ")"
  and := " AND "
  or := " OR "
  not := "NOT "
  truth := truthSql
  leaf c := if c.path.isEmpty then c.write b s t else c.writeNested b s t

def write (b : Bindings) (s : Schema) (t : Table) (f : Filter) : Except Error String := do
  return String.join (← drainWith (textScript b s t) [.part f] [])

end Filter

end Lateral
