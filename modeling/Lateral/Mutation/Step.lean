import Lateral.Mutation.Write

/-!
The order of writes. A row that holds the key of another comes after it, and links come before the
union that collects them.
-/

namespace Lateral

inductive Step where
  | rows (rows : Rows) (parent : Option Rows) (children : List Write)
  | link (group : LinkGroup) (owner : Rows) (link : Link)
  | union (group : LinkGroup)
  deriving Repr

namespace Step

def id : Step → Nat
  | .rows r _ _ => r.id
  | .link _ _ l => l.id
  | .union g => g.id

def table : Step → Table
  | .rows r _ _ => r.table
  | .link g _ _ => g.table
  | .union g => g.table

end Step

/-- The write comes before that of the rows above it, which hold its key. -/
def Write.runsFirst : Write → Bool
  | .rows r _ => r.kind = .insert && r.edge.any Edge.isOneToOne
  | .links g => g.edge.isOneToOne

mutual

def Write.steps (parent : Rows) : Write → List Step
  | .rows r children =>
    Write.stepsOf true r children ++ .rows r (some parent) children ::
      Write.stepsOf false r children
  | .links g => g.links.map (Step.link g parent) ++ [.union g]

/-- The steps of those writes that run before the rows above them, or of those that do not. -/
def Write.stepsOf (first : Bool) (parent : Rows) : List Write → List Step
  | [] => []
  | w :: rest =>
    (if w.runsFirst = first then Write.steps parent w else []) ++ Write.stepsOf first parent rest

end

def Chain.steps (c : Chain) : List Step :=
  Write.stepsOf true c.root c.children ++ .rows c.root none c.children ::
    Write.stepsOf false c.root c.children

end Lateral
