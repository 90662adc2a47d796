/-!
Relationships between a child table and a parent table.
-/

namespace Lateral

structure Endpoint where
  table : String
  column : String
  /-- The column holds a list of keys. -/
  array : Bool := false
  deriving DecidableEq, Repr, Inhabited

structure Junction where
  table : String
  /-- The column that points at the child. -/
  leftColumn : String
  /-- The column that points at the parent. -/
  rightColumn : String
  deriving DecidableEq, Repr, Inhabited

inductive EdgeKind where
  /-- The parent holds the foreign key. -/
  | oneToOne
  /-- The child holds the foreign key. -/
  | oneToMany
  | through (junction : Junction)
  /-- The child is resolved outside the database. The left side is then the parent's column, and the
  column of the right side the name its value is passed on under. -/
  | remote
  deriving DecidableEq, Repr, Inhabited

/-- A relationship, the child on the left and the parent on the right. -/
structure Edge where
  kind : EdgeKind
  left : Endpoint
  right : Endpoint
  deriving DecidableEq, Repr, Inhabited

namespace Edge

def isRemote (e : Edge) : Bool := e.kind = .remote

def isOneToOne (e : Edge) : Bool := e.kind = .oneToOne

def isOneToMany (e : Edge) : Bool := e.kind = .oneToMany

def junction? (e : Edge) : Option Junction :=
  match e.kind with
  | .through j => some j
  | _ => none

end Edge

end Lateral
