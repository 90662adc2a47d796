import Lateral.Catalog
import Lateral.Json.Decode

/-!
Catalogs in JSON.
-/

namespace Lateral

def TableKind.ofJson (j : Json) : Except ReadFault TableKind := do
  let text ← j.toText
  match TableKind.ofText? text with
  | some kind => return kind
  | none => throw (.tableKind text)

def TableKind.toJson (kind : TableKind) : Json := .str kind.name

def Column.ofJson : Json → Except ReadFault Column :=
  Json.toRecord { id := 0, name := "", sqlType := "" }
    (fun c key value => match key with
      | "id" => do return { c with id := ← value.toInt16 }
      | "name" => do return { c with name := ← value.toText }
      | "type" => do return { c with sqlType := ← value.toText }
      | "array" => do return { c with array := ← value.toBool }
      | "not_null" => do return { c with notNull := ← value.toBool }
      | "primary_key" => do return { c with primaryKey := ← value.toBool }
      | "unique_key" => do return { c with uniqueKey := ← value.toBool }
      | "fkey_table" => do return { c with target := ← value.toOption Json.toText }
      | "fkey_col_id" => do return { c with targetIds := ← value.toList Json.toInt16 }
      | _ => return c)
    ["id", "name", "type", "array", "not_null", "primary_key", "unique_key", "fkey_table",
      "fkey_col_id"]
    ["id", "name", "type"]

def Column.toJson (c : Column) : Json := .obj [
  ("id", .int c.id.toInt),
  ("name", .str c.name),
  ("type", .str c.sqlType),
  ("array", .bool c.array),
  ("not_null", .bool c.notNull),
  ("primary_key", .bool c.primaryKey),
  ("unique_key", .bool c.uniqueKey),
  ("fkey_table", Json.ofOption .str c.target),
  ("fkey_col_id", .arr (c.targetIds.map fun id => .int id.toInt))]

def CatalogTable.ofJson : Json → Except ReadFault CatalogTable :=
  Json.toRecord { name := "" }
    (fun t key value => match key with
      | "id" => do return { t with id := ← value.toInt32 }
      | "name" => do return { t with name := ← value.toText }
      | "kind" => do return { t with kind := ← TableKind.ofJson value }
      | _ => return t)
    ["id", "name", "kind"]
    ["name"]

def CatalogTable.toJson (t : CatalogTable) : Json := .obj [
  ("id", .int t.id.toInt),
  ("name", .str t.name),
  ("kind", t.kind.toJson)]

def Catalog.ofJson : Json → Except ReadFault Catalog :=
  Json.toRecord { tables := [], columns := [] }
    (fun c key value => match key with
      | "version" => do return { c with version := ← value.toInt32 }
      | "tables" => do return { c with tables := ← value.toList CatalogTable.ofJson }
      | "columns" => do return { c with columns := ← value.toList (Json.toList Column.ofJson) }
      | _ => return c)
    ["version", "tables", "columns"]
    ["tables", "columns"]

def Catalog.toJson (c : Catalog) : Json := .obj [
  ("version", .int c.version.toInt),
  ("tables", .arr (c.tables.map CatalogTable.toJson)),
  ("columns", .arr (c.columns.map fun columns => .arr (columns.map Column.toJson)))]

end Lateral
