/-!
Why a value cannot be read from JSON.
-/

namespace Lateral

inductive ReadFault where
  /-- The text is no JSON. -/
  | malformed
  /-- The text ends inside a value. -/
  | truncated
  /-- The value is JSON of another shape. -/
  | shape
  | operator (code : String)
  | tableKind (text : String)
  deriving DecidableEq, Repr

def ReadFault.message : ReadFault → String
  | .malformed => "syntax"
  | .truncated => "eof"
  | .shape => "data"
  | .operator code => s!"unknown operator '{code}'"
  | .tableKind text => s!"Invalid table kind: {text}"

end Lateral
