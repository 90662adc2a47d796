import Lateral.Request
import Lateral.Filter.Codec
import Lateral.Sorted

/-!
Requests in JSON.
-/

namespace Lateral

def Operation.table : List (String × Operation) :=
  [("query", .query), ("insert", .insert), ("update", .update), ("upsert", .upsert),
    ("delete", .delete)]

def Operation.ofJson : Json → Except ReadFault Operation := Json.toChoice Operation.table

def Operation.toJson (op : Operation) : Json := .str op.name

def Direction.table : List (String × Direction) :=
  [("asc", .asc), ("desc", .desc), ("asc_nulls_first", .ascNullsFirst),
    ("asc_nulls_last", .ascNullsLast), ("desc_nulls_first", .descNullsFirst),
    ("desc_nulls_last", .descNullsLast)]

def Direction.ofJson : Json → Except ReadFault Direction := Json.toChoice Direction.table

def Direction.name : Direction → String
  | .asc => "asc"
  | .desc => "desc"
  | .ascNullsFirst => "asc_nulls_first"
  | .ascNullsLast => "asc_nulls_last"
  | .descNullsFirst => "desc_nulls_first"
  | .descNullsLast => "desc_nulls_last"

def Direction.toJson (d : Direction) : Json := .str d.name

def Ordering.ofJson : Json → Except ReadFault Ordering :=
  Json.toRecord { column := "", direction := .asc }
    (fun o key value => match key with
      | "col" => do return { o with column := ← value.toText }
      | "order" => do return { o with direction := ← Direction.ofJson value }
      | _ => return o)
    ["col", "order"]
    ["col", "order"]

def Ordering.toJson (o : Ordering) : Json := .obj [
  ("col", .str o.column),
  ("order", o.direction.toJson)]

def PagingKind.table : List (String × PagingKind) :=
  [("offset", .offset), ("forward", .forward), ("backward", .backward)]

def PagingKind.ofJson : Json → Except ReadFault PagingKind := Json.toChoice PagingKind.table

def PagingKind.name : PagingKind → String
  | .offset => "offset"
  | .forward => "forward"
  | .backward => "backward"

def PagingKind.toJson (k : PagingKind) : Json := .str k.name

def Paging.ofJson : Json → Except ReadFault Paging :=
  Json.toRecord {}
    (fun p key value => match key with
      | "limit" => do return { p with limit := ← value.toOption Json.toText }
      | "offset" => do return { p with offset := ← value.toOption Json.toText }
      | "no_limit" => do return { p with noLimit := ← value.toBool }
      | "kind" => do return { p with kind := ← PagingKind.ofJson value }
      | "cursor" => do return { p with cursor := ← value.toOption Json.toText }
      | _ => return p)
    ["limit", "offset", "no_limit", "kind", "cursor"]
    []

def Paging.toJson (p : Paging) : Json := .obj [
  ("limit", Json.ofOption .str p.limit),
  ("offset", Json.ofOption .str p.offset),
  ("no_limit", .bool p.noLimit),
  ("kind", p.kind.toJson),
  ("cursor", Json.ofOption .str p.cursor)]

def Field.ofJson : Json → Except ReadFault Field :=
  Json.toRecord { name := "", label := "" }
    (fun f key value => match key with
      | "name" => do return { f with name := ← value.toText }
      | "field_name" => do return { f with label := ← value.toText }
      | _ => return f)
    ["name", "field_name"]
    ["name", "field_name"]

def Field.toJson (f : Field) : Json := .obj [
  ("name", .str f.name),
  ("field_name", .str f.label)]

def Preset.ofJson : Json → Except ReadFault Preset :=
  Json.toRecord { column := "", value := "" }
    (fun p key value => match key with
      | "col" => do return { p with column := ← value.toText }
      | "value" => do return { p with value := ← value.toText }
      | _ => return p)
    ["col", "value"]
    ["col", "value"]

def Preset.toJson (p : Preset) : Json := .obj [
  ("col", .str p.column),
  ("value", .str p.value)]

def Selection.ofJson : Json → Except ReadFault Selection :=
  Json.toRecord {}
    (fun s key value => match key with
      | "id" => do return { s with id := ← value.toNat }
      | "parent_id" => do return { s with parent := ← value.toOption Json.toNat }
      | "table" => do return { s with table := ← value.toText }
      | "field_name" => do return { s with label := ← value.toText }
      | "singular" => do return { s with singular := ← value.toBool }
      | "cols" => do return { s with fields := ← value.toList Field.ofJson }
      | "children" => do return { s with children := ← value.toList Json.toNat }
      | "filter" => do return { s with filter := ← value.toOption Filter.ofJson }
      | "order_by" => do return { s with orderBy := ← value.toList Ordering.ofJson }
      | "distinct_on" => do return { s with distinctOn := ← value.toTexts }
      | "paging" => do return { s with paging := ← Paging.ofJson value }
      | "allowed" => do return { s with allowed := ← value.toTexts }
      | "presets" => do return { s with presets := ← value.toList Preset.ofJson }
      | "search" => do return { s with search := ← value.toOption Json.toText }
      | _ => return s)
    ["id", "parent_id", "table", "field_name", "singular", "cols", "children", "filter",
      "order_by", "distinct_on", "paging", "allowed", "presets", "search"]
    []

/-- The allowed columns are a set, so they are written sorted and without repeats. -/
def Selection.toJson (s : Selection) : Json := .obj [
  ("id", Json.ofNat s.id),
  ("parent_id", Json.ofOption Json.ofNat s.parent),
  ("table", .str s.table),
  ("field_name", .str s.label),
  ("singular", .bool s.singular),
  ("cols", .arr (s.fields.map Field.toJson)),
  ("children", .arr (s.children.map Json.ofNat)),
  ("filter", Json.ofOption Filter.toJson s.filter),
  ("order_by", .arr (s.orderBy.map Ordering.toJson)),
  ("distinct_on", Json.ofTexts s.distinctOn),
  ("paging", s.paging.toJson),
  ("allowed", Json.ofTexts (sortedTexts s.allowed)),
  ("presets", .arr (s.presets.map Preset.toJson)),
  ("search", Json.ofOption .str s.search)]

def Request.ofJson : Json → Except ReadFault Request :=
  Json.toRecord { operation := .query, selections := [], roots := [] }
    (fun r key value => match key with
      | "operation" => do return { r with operation := ← Operation.ofJson value }
      | "selects" => do return { r with selections := ← value.toList Selection.ofJson }
      | "roots" => do return { r with roots := ← value.toList Json.toNat }
      | "action_var" => do return { r with payload := ← value.toOption Json.toText }
      | _ => return r)
    ["operation", "selects", "roots", "action_var"]
    ["operation", "selects", "roots"]

def Request.toJson (r : Request) : Json := .obj [
  ("operation", r.operation.toJson),
  ("selects", .arr (r.selections.map Selection.toJson)),
  ("roots", .arr (r.roots.map Json.ofNat)),
  ("action_var", Json.ofOption .str r.payload)]

end Lateral
