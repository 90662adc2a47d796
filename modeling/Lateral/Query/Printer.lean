import Lateral.Query.Node

/-!
The text of a selection. Its row source yields one JSON value: a row, or the list of its rows. The
children follow as lateral joins, so a selection is written in two parts, before and after them.
-/

namespace Lateral.Query

def commaList (texts : List String) : String := String.intercalate ", " texts

def jsonName (id : Nat) : String := Sql.numbered "json" id

def cursorName (id : Nat) : String := Sql.numbered "__cursor" id

def cursorLabel (label : String) : String := label ++ "_cursor"

def orderName (table : String) (id : Nat) (column : String) : String :=
  Sql.numbered table id ++ "_" ++ column ++ "_ob"

def Search.sql (s : Search) : Template := s.function ++ "(" ++ s.words.literal ++ ")"

def Output.sql (search : Search) (table : String) : Output → Template
  | .column c => (Sql.ColumnRef.mk table c).sql
  | .aggregate f c name =>
    f.name ++ "(" ++ (Sql.ColumnRef.mk table c).sql ++ ")" ++ Sql.asName name
  | .searchRank c name =>
    "ts_rank(" ++ (Sql.ColumnRef.mk table c).sql ++ ", " ++ search.sql ++ ")" ++ Sql.asName name
  | .searchHeadline c name =>
    "ts_headline(" ++ (Sql.ColumnRef.mk table c).sql ++ ", " ++ search.sql ++ ")" ++
      Sql.asName name
  | .undefined name => Text.quote (name ++ " not defined") ++ Sql.asName name

def Restriction.sql : Restriction → Template
  | .related equation => equation.sql
  | .filter tokens => tokens.flatMap Token.sql
  | .cursor column backward value sqlType =>
    "((" ++ column.sql ++ (if backward then ") < " else ") > ") ++ value.typed sqlType ++ ")"

def whereSql (restrictions : List Restriction) : Template :=
  match restrictions with
  | [] => []
  | [r] => " WHERE " ++ r.sql
  | rs => " WHERE (" ++ Template.join " AND " (rs.map Restriction.sql) ++ ")"

def columnClause (word : String) (table : String) (columns : List String) : String :=
  if columns.isEmpty then ""
  else word ++ commaList (columns.map fun c => (Sql.ColumnRef.mk table c).sql)

def orderClause (table : String) (orders : List (String × Direction)) : String :=
  if orders.isEmpty then ""
  else " ORDER BY " ++
    commaList (orders.map fun (c, d) => (Sql.ColumnRef.mk table c).sql ++ " " ++ d.sql)

def countClause (word : String) : Option Argument → Template
  | some a => word ++ a.integer
  | none => []

def BaseSource.sql (b : BaseSource) : Template :=
  "SELECT " ++
    (if b.distinctOn.isEmpty then ""
      else columnClause "DISTINCT ON (" b.table b.distinctOn ++ ") ") ++
    Template.join ", " (b.outputs.map (Output.sql b.search b.table)) ++
    " FROM " ++ Sql.name b.table ++ (b.join.map Sql.JunctionJoin.sql).getD "" ++
    whereSql b.restrictions ++
    columnClause " GROUP BY " b.table b.groupBy ++
    orderClause b.table b.orderBy ++
    countClause " LIMIT " b.limit ++ countClause " OFFSET " b.offset

def RowEntry.sql (source : String) : RowEntry → String
  | .column c label => (Sql.ColumnRef.mk source c).sql ++ Sql.asName label
  | .child join id label withCursor =>
    (Sql.ColumnRef.mk join (jsonName id)).sql ++ Sql.asName label ++
      (if withCursor then
        ", " ++ (Sql.ColumnRef.mk join (cursorName id)).sql ++ Sql.asName (cursorLabel label)
      else "")

def Head.listSql (n : Head) : String :=
  let orders := if n.orders.isEmpty then "" else " ORDER BY " ++
    commaList (n.orders.map fun (c, d) => Sql.name (orderName n.table n.id c) ++ " " ++ d.sql)
  let cursor := if n.cursor.isSome then
      ", " ++ (if n.backward then "min(" else "max(") ++ Sql.name (Sql.numbered "__cur" n.id) ++
        ")" ++ Sql.asName (cursorName n.id)
    else ""
  "SELECT coalesce(json_agg(" ++ Sql.name (jsonName n.id) ++ orders ++ "), '[]')" ++
    Sql.asName (jsonName n.id) ++ cursor ++ " FROM ("

def Head.orderValues (n : Head) : String :=
  String.join (n.orders.map fun (c, _) =>
    ", " ++ (Sql.ColumnRef.mk (Sql.numbered n.table n.id) c).sql ++
      Sql.asName (orderName n.table n.id c))

def Head.cursorValue (n : Head) : String :=
  match n.cursor with
  | some key =>
    ", " ++ (Sql.ColumnRef.mk (Sql.numbered n.table n.id) key).sql ++
      Sql.asName (if n.singular then cursorName n.id else Sql.numbered "__cur" n.id)
  | none => ""

def Head.beforeBase (n : Head) : String :=
  let source := Sql.numbered n.table n.id
  let row := Sql.numbered "json_row" n.id
  (if n.nested then " LEFT OUTER JOIN LATERAL (" else "(") ++
    (if n.singular then "" else n.listSql) ++
    "SELECT row_to_json((SELECT " ++ Sql.name row ++ " FROM (SELECT " ++
    commaList (n.entries.map (RowEntry.sql source)) ++ ")" ++ Sql.asName row ++ "))" ++
    Sql.asName (jsonName n.id) ++
    (if n.singular then "" else n.orderValues) ++ n.cursorValue ++ " FROM ("

def Head.afterBase (n : Head) : String := ")" ++ Sql.asName (Sql.numbered n.table n.id)

def Node.openSql (n : Node) : Template := n.beforeBase ++ n.base.sql ++ n.afterBase

def Head.closeSql (n : Head) : String :=
  (if n.singular then "" else ")" ++ Sql.asName (Sql.numbered "json_agg" n.id)) ++
    if n.nested then ")" ++ Sql.asName (joinName n.label n.id) ++ " ON ('true')"
    else ")" ++ Sql.asName (Sql.numbered "sel" n.id)

def rootColumn (withCursor : Bool) (s : Selection) : String :=
  let source := Sql.numbered "sel" s.id
  (Sql.ColumnRef.mk source (jsonName s.id)).sql ++ Sql.asName s.label ++
    if withCursor then
      ", " ++ (Sql.ColumnRef.mk source (cursorName s.id)).sql ++ Sql.asName (cursorLabel s.label)
    else ""

def severalHeader (columns : List String) : String :=
  "SELECT row_to_json(\"json_root\") FROM (SELECT " ++ commaList columns ++ " FROM "

def severalTrailer : String := ") AS \"json_root\""

def singleHeader (s : Selection) : String :=
  "SELECT json_object_agg(" ++ Text.quote s.label ++ ", " ++ Sql.name (jsonName s.id) ++ ") FROM "

end Lateral.Query
