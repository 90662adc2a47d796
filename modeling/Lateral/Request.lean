import Lateral.Filter

/-!
Requests: a flat list of selections that refer to each other by position, each one a table to read
or write with its columns, filter, order and page.
-/

namespace Lateral

inductive Operation where
  | query
  | insert
  | update
  | upsert
  | delete
  deriving DecidableEq, Repr, Inhabited

namespace Operation

def isMutation : Operation → Bool
  | .query => false
  | _ => true

def name : Operation → String
  | .query => "query"
  | .insert => "insert"
  | .update => "update"
  | .upsert => "upsert"
  | .delete => "delete"

end Operation

inductive Direction where
  | asc
  | desc
  | ascNullsFirst
  | ascNullsLast
  | descNullsFirst
  | descNullsLast
  deriving DecidableEq, Repr, Inhabited

def Direction.sql : Direction → String
  | .asc => "ASC"
  | .desc => "DESC"
  | .ascNullsFirst => "ASC NULLS FIRST"
  | .ascNullsLast => "ASC NULLS LAST"
  | .descNullsFirst => "DESC NULLS FIRST"
  | .descNullsLast => "DESC NULLS LAST"

structure Ordering where
  column : String
  direction : Direction
  deriving DecidableEq, Repr, Inhabited

inductive PagingKind where
  | offset
  | forward
  | backward
  deriving DecidableEq, Repr, Inhabited

/-- The page of a selection. A text that starts with a dollar sign names a variable. -/
structure Paging where
  limit : Option String := none
  offset : Option String := none
  noLimit : Bool := false
  kind : PagingKind := .offset
  /-- The last primary key seen. -/
  cursor : Option String := none
  deriving DecidableEq, Repr, Inhabited

def Paging.isCursor (p : Paging) : Bool := p.kind ≠ .offset

structure Field where
  name : String
  label : String
  deriving DecidableEq, Repr, Inhabited

def Field.ofName (name : String) : Field := ⟨name, name⟩

/-- A column value forced on a mutation: a literal, or a variable after a dollar sign. -/
structure Preset where
  column : String
  value : String
  deriving DecidableEq, Repr, Inhabited

structure Selection where
  id : Nat := 0
  parent : Option Nat := none
  table : String := ""
  /-- The name of the selection in the answer. -/
  label : String := ""
  /-- At most one row is wanted. -/
  singular : Bool := false
  fields : List Field := []
  children : List Nat := []
  filter : Option Filter := none
  orderBy : List Ordering := []
  distinctOn : List String := []
  paging : Paging := {}
  /-- The columns that may be read or written. None listed means all. -/
  allowed : List String := []
  presets : List Preset := []
  /-- The text to search for. -/
  search : Option String := none
  deriving Repr, Inhabited

namespace Selection

def ofTable (id : Nat) (table : String) : Selection := { id := id, table := table, label := table }

def allows (s : Selection) (column : String) : Bool :=
  s.allowed.isEmpty || s.allowed.contains column

end Selection

structure Request where
  operation : Operation
  selections : List Selection
  roots : List Nat
  /-- The variable with the data of a mutation. -/
  payload : Option String := none
  deriving Repr, Inhabited

namespace Request

/-- The query of these selections, those without a parent being its roots. -/
def query (selections : List Selection) : Request where
  operation := .query
  selections := selections
  roots := (selections.filter fun s => s.parent.isNone).map Selection.id

def mutation (operation : Operation) (payload : String) (selections : List Selection) : Request :=
  { query selections with operation := operation, payload := some payload }

end Request

end Lateral
