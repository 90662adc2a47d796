import Lateral.Text.Case

/-!
Singular and plural as a schema asks for them, and the canonical form of a name: the singular of its
lower case. Spellings of a name that differ in case, or in number, have one canonical form.
-/

namespace Lateral

structure Inflector where
  singular : String → String
  plural : String → String

namespace Inflector

variable (i : Inflector)

def canonical (name : String) : String := i.singular (Text.lower name)

/-- Written in the singular, and with a plural of its own. -/
def isSingular (name : String) : Bool :=
  let w := Text.lower name
  i.singular w == w && i.plural w != w

end Inflector

end Lateral
