import Lateral.Dict
import Lateral.Error
import Lateral.Json.Decode
import Lateral.Json.Reader

/-!
Settings of the compiler, and their JSON. In a text the settings are read as they come, so a value
of the wrong shape is noticed before anything that follows it, and settings that are not known are
only passed over.
-/

namespace Lateral

structure Settings where
  /-- The limit of selections that set none. -/
  defaultLimit : UInt32 := 20
  /-- Values of variables, which come before those of the request. -/
  fixed : Dict String String := {}
  /-- Further names of tables. -/
  aliases : Dict String (List String) := {}
  deriving Repr, Inhabited

namespace Settings

def ofJson : Json → Except ReadFault Settings :=
  Json.toRecord {}
    (fun s key value => match key with
      | "default_limit" => do return { s with defaultLimit := ← value.toUInt32 }
      | "vars" => do return { s with fixed := Dict.ofList (← value.toFields Json.toText) }
      | "aliases" => do return { s with aliases := Dict.ofList (← value.toFields Json.toTexts) }
      | _ => return s)
    ["default_limit", "vars", "aliases"]
    []

def toJson (s : Settings) : Json := .obj [
  ("default_limit", .int s.defaultLimit.toNat),
  ("vars", .obj (s.fixed.entries.map fun (name, value) => (name, .str value))),
  ("aliases", .obj (s.aliases.entries.map fun (table, names) => (table, Json.ofTexts names)))]

end Settings

end Lateral
