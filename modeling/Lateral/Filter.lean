import Lateral.Decimal.Shortest

/-!
Filters: trees of conditions on the columns of a table, or of a table reached from it.
-/

namespace Lateral

inductive Operand where
  | null
  | bool (value : Bool)
  | int (value : Int64)
  | float (value : Double)
  | text (value : String)
  | list (items : List Operand)
  /-- The value of a request variable. -/
  | variable (name : String)
  deriving Repr, Inhabited

inductive Operator where
  | equals
  | notEquals
  | greaterThan
  | greaterOrEquals
  | lesserThan
  | lesserOrEquals
  | isIn
  | notIn
  | like
  | notLike
  | iLike
  | notILike
  | similar
  | notSimilar
  | contains
  | containedIn
  | hasKey
  | hasKeyAny
  | hasKeyAll
  | isNull
  | equalsId
  | textSearch
  deriving DecidableEq, Repr, Inhabited

namespace Operator

def code : Operator → String
  | .equals => "eq"
  | .notEquals => "neq"
  | .greaterThan => "gt"
  | .greaterOrEquals => "gte"
  | .lesserThan => "lt"
  | .lesserOrEquals => "lte"
  | .isIn => "in"
  | .notIn => "nin"
  | .like => "like"
  | .notLike => "nlike"
  | .iLike => "ilike"
  | .notILike => "nilike"
  | .similar => "similar"
  | .notSimilar => "nsimilar"
  | .contains => "contains"
  | .containedIn => "contained_in"
  | .hasKey => "has_key"
  | .hasKeyAny => "has_key_any"
  | .hasKeyAll => "has_key_all"
  | .isNull => "is_null"
  | .equalsId => "eq_id"
  | .textSearch => "tsquery"

/-- An operator by its code or, for some, by a longer name. -/
def ofCode? : String → Option Operator
  | "eq" | "equals" => some .equals
  | "neq" | "not_equals" => some .notEquals
  | "gt" | "greater_than" => some .greaterThan
  | "gte" | "greater_or_equals" => some .greaterOrEquals
  | "lt" | "lesser_than" => some .lesserThan
  | "lte" | "lesser_or_equals" => some .lesserOrEquals
  | "in" => some .isIn
  | "nin" | "not_in" => some .notIn
  | "like" => some .like
  | "nlike" | "not_like" => some .notLike
  | "ilike" => some .iLike
  | "nilike" | "not_ilike" => some .notILike
  | "similar" => some .similar
  | "nsimilar" | "not_similar" => some .notSimilar
  | "contains" => some .contains
  | "contained_in" => some .containedIn
  | "has_key" => some .hasKey
  | "has_key_any" => some .hasKeyAny
  | "has_key_all" => some .hasKeyAll
  | "is_null" => some .isNull
  | "eq_id" => some .equalsId
  | "tsquery" => some .textSearch
  | _ => none

theorem ofCode?_code (op : Operator) : ofCode? op.code = some op := by
  cases op <;> rfl

end Operator

/-- A comparison of a column of the table at the end of a path of related tables. -/
structure Condition where
  path : List String := []
  column : String := ""
  operator : Operator
  operand : Operand
  deriving Repr, Inhabited

inductive Filter where
  | all (parts : List Filter)
  | any (parts : List Filter)
  | not (part : Filter)
  /-- Holds of no row. -/
  | never
  | leaf (condition : Condition)
  deriving Repr, Inhabited

def Filter.isNever : Filter → Bool
  | .never => true
  | _ => false

def Filter.isLeaf : Filter → Bool
  | .leaf _ => true
  | _ => false

end Lateral
