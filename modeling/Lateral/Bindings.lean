import Lateral.Dict
import Lateral.Json
import Lateral.Text.Quoted

/-!
Values of variables known when a statement is written. A fixed value comes before the value of the
request; a variable that is missing, or nothing, stays open and is written as its name in double
braces.
-/

namespace Lateral

abbrev Variables := Dict String Json

structure Bindings where
  fixed : Dict String String := {}
  request : Variables := {}
  deriving Repr, Inhabited

namespace Bindings

/-- The text of a variable. A value other than a text has its JSON text. -/
def value? (b : Bindings) (name : String) : Option String :=
  match b.fixed.get? name with
  | some value => some value
  | none => match b.request.get? name with
    | none | some .null => none
    | some (.str s) => some s
    | some j => some j.render

def mark (name : String) : String := "\x7b\x7b" ++ name ++ "\x7d\x7d"

/-- The literal of a variable. The name of an open one stands as it is. -/
def literal (b : Bindings) (name : String) : String :=
  match b.value? name with
  | some value => Text.quote value
  | none => "'" ++ mark name ++ "'"

/-- The literal of a variable that counts rows. Here the mark of an open one is quoted as a text. -/
def count (b : Bindings) (name : String) : String :=
  Text.quote ((b.value? name).getD (mark name))

end Bindings

end Lateral
