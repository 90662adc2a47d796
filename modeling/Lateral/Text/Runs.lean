/-!
Sets of code points as sorted runs. Letters of the two cases often alternate, so a run may take
every second point.
-/

namespace Lateral.Text

/-- The code points first, first + step, and so on up to last. -/
structure Run where
  first : Nat
  last : Nat
  step : Nat
  deriving Repr, DecidableEq

def Run.contains (r : Run) (n : Nat) : Bool :=
  r.first ≤ n && n ≤ r.last && (n - r.first) % r.step == 0

/-- The runs are sorted by their first points, so the search ends where one starts later. -/
def Run.anyContains : List Run → Nat → Bool
  | [], _ => false
  | r :: rest, n => if n < r.first then false else r.contains n || Run.anyContains rest n

end Lateral.Text
