import Lateral.Proofs.Phrases
import Lateral.Query.Printer

/-!
The text of a selection taken apart: what stands around its row source, and the rows and conditions
of the row source itself.
-/

namespace Lateral

open Sql

theorem Direction.sql_plain (d : Direction) : Sql.isPlain d.sql = true := by
  cases d <;> decide +kernel

def Direction.word (d : Direction) : Words := ⟨d.sql, d.sql_plain⟩

@[simp] theorem Direction.text_word (d : Direction) : d.word.text = d.sql := rfl

namespace Query

variable {b : Bindings}

def RowEntry.phrase (source : String) : RowEntry → Phrase
  | .column c label => .column ⟨source, c⟩ :: Phrase.named label
  | .child join id label withCursor =>
    .column ⟨join, jsonName id⟩ :: Phrase.named label ++
      if withCursor then
        [Part.words ", ", .column ⟨join, cursorName id⟩] ++ Phrase.named (cursorLabel label)
      else []

@[simp] theorem RowEntry.text_phrase (source : String) (entry : RowEntry) :
    (entry.phrase source).text b = entry.sql source := by
  cases entry with
  | column c label => simp [phrase, RowEntry.sql]
  | child join id label withCursor =>
    unfold RowEntry.sql
    cases withCursor <;> simp [phrase, String.append_assoc]

namespace Head

def sortPhrase (n : Head) : Phrase :=
  if n.orders.isEmpty then [] else
    .words " ORDER BY " :: Phrase.commas (n.orders.map fun o =>
      [Part.label (orderName n.table n.id o.1), .words " ", .fixed o.2.word])

theorem columns_sortPhrase (n : Head) : n.sortPhrase.columns = [] := by
  unfold sortPhrase
  split
  · rfl
  · rw [Phrase.columns_cons, Phrase.columns_commas, List.flatMap_map]
    exact List.flatMap_eq_nil_iff.mpr fun o _ => rfl

def listPhrase (n : Head) : Phrase :=
  [Part.words "SELECT coalesce(json_agg(", .label (jsonName n.id)] ++ n.sortPhrase ++
    [Part.words "), '[]')"] ++ Phrase.named (jsonName n.id) ++
    (if n.cursor.isSome then
      [Part.words ", ", .fixed (.either n.backward ⟨"min(", Eq.refl true⟩ ⟨"max(", Eq.refl true⟩),
        .label (Sql.numbered "__cur" n.id), .words ")"] ++ Phrase.named (cursorName n.id)
    else []) ++
    [Part.words " FROM ("]

theorem text_listPhrase (n : Head) : n.listPhrase.text b = n.listSql := by
  unfold listPhrase sortPhrase listSql commaList
  cases n.orders with
  | nil => cases n.cursor <;> simp [String.append_assoc]
  | cons first rest => cases n.cursor <;> simp [String.append_assoc, Function.comp_def]

theorem columns_listPhrase (n : Head) : n.listPhrase.columns = [] := by
  unfold listPhrase
  cases n.cursor <;> simp [columns_sortPhrase]

def rowPhrase (n : Head) : Phrase :=
  [Part.words "SELECT row_to_json((SELECT ", .label (Sql.numbered "json_row" n.id),
      .words " FROM (SELECT "] ++
    Phrase.commas (n.entries.map (RowEntry.phrase (Sql.numbered n.table n.id))) ++
    [Part.words ")"] ++ Phrase.named (Sql.numbered "json_row" n.id) ++ [Part.words "))"] ++
    Phrase.named (jsonName n.id)

theorem text_rowPhrase (n : Head) : n.rowPhrase.text b =
    "SELECT row_to_json((SELECT " ++ Sql.name (Sql.numbered "json_row" n.id) ++ " FROM (SELECT " ++
      commaList (n.entries.map (RowEntry.sql (Sql.numbered n.table n.id))) ++ ")" ++
      Sql.asName (Sql.numbered "json_row" n.id) ++ "))" ++ Sql.asName (jsonName n.id) := by
  have entries : (n.entries.map (RowEntry.phrase (Sql.numbered n.table n.id))).map (Phrase.text b) =
      n.entries.map (RowEntry.sql (Sql.numbered n.table n.id)) := by
    rw [List.map_map]
    exact List.map_congr_left fun entry _ => entry.text_phrase _
  simp [rowPhrase, commaList, entries, String.append_assoc]

theorem columns_rowPhrase (n : Head) : n.rowPhrase.columns =
    n.entries.flatMap fun entry => (entry.phrase (Sql.numbered n.table n.id)).columns := by
  simp [rowPhrase, List.flatMap_map]

def orderPhrase (n : Head) : Phrase :=
  n.orders.flatMap fun o =>
    [Part.words ", ", .column ⟨Sql.numbered n.table n.id, o.1⟩] ++
      Phrase.named (orderName n.table n.id o.1)

theorem text_orderPhrase (n : Head) : n.orderPhrase.text b = n.orderValues := by
  unfold orderPhrase orderValues
  simp [Phrase.text_flatMap, String.append_assoc]

def cursorPhrase (n : Head) : Phrase :=
  match n.cursor with
  | some key =>
    [Part.words ", ", .column ⟨Sql.numbered n.table n.id, key⟩] ++
      Phrase.named (if n.singular then cursorName n.id else Sql.numbered "__cur" n.id)
  | none => []

theorem text_cursorPhrase (n : Head) : n.cursorPhrase.text b = n.cursorValue := by
  unfold cursorPhrase cursorValue
  cases n.cursor <;> simp [String.append_assoc]

theorem columns_orderPhrase (n : Head) :
    n.orderPhrase.columns = n.orders.map fun o => ⟨Sql.numbered n.table n.id, o.1⟩ := by
  rw [orderPhrase, Phrase.columns_flatMap, List.map_eq_flatMap]
  rfl

theorem columns_cursorPhrase (n : Head) :
    n.cursorPhrase.columns =
      n.cursor.toList.map fun key => ⟨Sql.numbered n.table n.id, key⟩ := by
  unfold cursorPhrase
  cases n.cursor <;> simp

def phrase (n : Head) : Phrase :=
  [Part.fixed (.either n.nested ⟨" LEFT OUTER JOIN LATERAL (", Eq.refl true⟩
    ⟨"(", Eq.refl true⟩)] ++
    (if n.singular then [] else n.listPhrase) ++ n.rowPhrase ++
    (if n.singular then [] else n.orderPhrase) ++ n.cursorPhrase ++ [Part.words " FROM ("]

theorem text_phrase (n : Head) : n.phrase.text b = n.beforeBase := by
  unfold phrase beforeBase
  cases n.singular <;>
    simp [text_rowPhrase, text_listPhrase, text_orderPhrase, text_cursorPhrase,
      String.append_assoc]

end Head

def Restriction.phrase : Restriction → Phrase
  | .related equation => equation.phrase
  | .filter tokens => tokens.flatMap Token.phrase
  | .cursor column backward value sqlType =>
    [Part.words "((", .column column,
      .fixed (.either backward ⟨") < ", Eq.refl true⟩ ⟨") > ", Eq.refl true⟩),
      .value (value.typed sqlType), .words ")"]

@[simp] theorem Restriction.text_phrase (r : Restriction) : r.phrase.text b = r.sql.fill b := by
  cases r with
  | related equation => simp [phrase, Restriction.sql, Template.fill_text]
  | filter tokens => exact Token.text_phrases tokens
  | cursor column backward value sqlType =>
    unfold Restriction.sql
    simp [phrase, Template.fill_append, Template.fill_text]

def wherePhrase (restrictions : List Restriction) : Phrase :=
  match restrictions with
  | [] => []
  | [r] => .words " WHERE " :: r.phrase
  | rs => .words " WHERE (" ::
      (Phrase.separated (.words " AND ") (rs.map Restriction.phrase) ++ [Part.words ")"])

theorem text_wherePhrase (restrictions : List Restriction) :
    (wherePhrase restrictions).text b = (whereSql restrictions).fill b := by
  unfold wherePhrase whereSql
  split
  · rfl
  · simp [Template.fill_append, Template.fill_text]
  · have each : (List.map Restriction.phrase restrictions).map (Phrase.text b) =
        (List.map Restriction.sql restrictions).map (Template.fill b) := by
      simp [Function.comp_def]
    simp only [Phrase.text_cons, Phrase.text_append, Phrase.text_separated, each, Part.text_fixed,
      Template.fill_append, Template.fill_text, Template.fill_join, Phrase.text_nil,
      String.append_empty, String.append_assoc]

def BaseSource.rowsPhrase (source : BaseSource) : Phrase :=
  [Part.words " FROM ", .rows source.table] ++ (source.join.map JunctionJoin.phrase).getD [] ++
    wherePhrase source.restrictions

theorem BaseSource.text_rowsPhrase (source : BaseSource) :
    source.rowsPhrase.text b = " FROM " ++ Sql.name source.table ++
      (source.join.map JunctionJoin.sql).getD "" ++ (whereSql source.restrictions).fill b := by
  unfold rowsPhrase
  cases source.join <;> simp [text_wherePhrase, String.append_assoc]

theorem Node.openSql_phrases (n : Node) : ∃ between after, n.openSql.fill b =
    n.toHead.phrase.text b ++ between ++ n.base.rowsPhrase.text b ++ after := by
  refine ⟨"SELECT " ++
      (if n.base.distinctOn.isEmpty then ""
        else columnClause "DISTINCT ON (" n.base.table n.base.distinctOn ++ ") ") ++
      (Template.join ", " (n.base.outputs.map (Output.sql n.base.search n.base.table))).fill b,
    columnClause " GROUP BY " n.base.table n.base.groupBy ++
      orderClause n.base.table n.base.orderBy ++ (countClause " LIMIT " n.base.limit).fill b ++
      (countClause " OFFSET " n.base.offset).fill b ++ n.afterBase, ?_⟩
  unfold Node.openSql BaseSource.sql
  simp only [Head.text_phrase, BaseSource.text_rowsPhrase, Template.fill_append,
    Template.fill_text, String.append_assoc]

end Query

end Lateral
