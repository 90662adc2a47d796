import Lateral.Sql.Name
import Lateral.Sql.Template

/-!
Values in the text of a statement. Wherever a value may come from a variable, it is written with the
bindings at hand: the literal of the value that is bound, or the mark of a variable that is left
open.
-/

namespace Lateral

def Bindings.typed (b : Bindings) (name sqlType : String) : String :=
  match b.value? name with
  | some value => Sql.typed value sqlType
  | none => Sql.placeholder name sqlType

namespace Argument

def write (b : Bindings) : Argument → String
  | .fixed s => Text.quote s
  | .variable name => b.literal name

def writeTyped (b : Bindings) (sqlType : String) : Argument → String
  | .fixed s => Sql.typed s sqlType
  | .variable name => b.typed name sqlType

def writeInteger (b : Bindings) : Argument → String
  | .fixed s => Sql.integer s
  | .variable name => Sql.integer ((b.value? name).getD (Bindings.mark name))

end Argument

end Lateral
