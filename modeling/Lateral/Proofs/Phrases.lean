import Lateral.Filter.Tokens

/-!
Texts taken apart. A phrase is a text in parts: words, names of rows, columns of rows, other names,
and values. The rows and columns that a text speaks of are read off its phrase. No words have a
quotation mark in them, so that no name can hide there.
-/

namespace Lateral

namespace Sql

/-- There is no quotation mark in the text: its byte is that of no other character. -/
def isPlain (text : String) : Bool :=
  text.toByteArray.data.toList.all fun b => b.toNat != '"'.toNat

theorem isPlain_not_mem {text : String} (plain : isPlain text = true) : '"' ∉ text.toList := by
  intro member
  have byte : (34 : UInt8) ∈ text.toList.utf8Encode.data.toList := by
    have own : (34 : UInt8) ∈ String.utf8EncodeChar '"' := by decide
    simpa [List.utf8Encode] using ⟨'"', member, own⟩
  rw [String.utf8Encode_toList] at byte
  have other := List.all_eq_true.mp plain _ byte
  exact absurd other (by decide)

structure Words where
  text : String
  plain : isPlain text = true

def Words.either (first : Bool) (a b : Words) : Words := if first then a else b

@[simp] theorem Words.text_either (first : Bool) (a b : Words) :
    (Words.either first a b).text = if first then a.text else b.text := by
  cases first <;> rfl

inductive Part where
  | fixed (words : Words)
  /-- The name of rows that are read. -/
  | rows (name : String)
  /-- A name that is given or listed, and of which nothing is read. -/
  | label (name : String)
  | column (ref : ColumnRef)
  | value (text : Template)

namespace Part

abbrev words (text : String) (plain : isPlain text = true := by exact Eq.refl true) : Part :=
  .fixed ⟨text, plain⟩

def text (b : Bindings) : Part → String
  | .fixed words => words.text
  | .rows name | .label name => "\"" ++ name ++ "\""
  | .column ref => "\"" ++ ref.source ++ "\"" ++ "." ++ "\"" ++ ref.column ++ "\""
  | .value text => text.fill b

def rows? : Part → Option String
  | .rows name => some name
  | .fixed _ | .label _ | .column _ | .value _ => none

def column? : Part → Option ColumnRef
  | .column ref => some ref
  | .fixed _ | .rows _ | .label _ | .value _ => none

section Read

variable (w : Words) (name : String) (ref : ColumnRef) (value : Template)

@[simp] theorem rows?_fixed : (fixed w).rows? = none := rfl

@[simp] theorem rows?_rows : (rows name).rows? = some name := rfl

@[simp] theorem rows?_label : (label name).rows? = none := rfl

@[simp] theorem rows?_column : (column ref).rows? = none := rfl

@[simp] theorem rows?_value : (Part.value value).rows? = none := rfl

@[simp] theorem column?_fixed : (fixed w).column? = none := rfl

@[simp] theorem column?_rows : (rows name).column? = none := rfl

@[simp] theorem column?_label : (label name).column? = none := rfl

@[simp] theorem column?_column : (column ref).column? = some ref := rfl

@[simp] theorem column?_value : (Part.value value).column? = none := rfl

end Read

end Part

abbrev Phrase := List Part

namespace Phrase

def text (b : Bindings) (p : Phrase) : String := String.join (p.map (Part.text b))

def rows (p : Phrase) : List String := p.filterMap Part.rows?

def columns (p : Phrase) : List ColumnRef := p.filterMap Part.column?

def separated (separator : Part) (ps : List Phrase) : Phrase := [separator].intercalate ps

def commas (ps : List Phrase) : Phrase := separated (.words ", ") ps

def named (name : String) : Phrase := [Part.words " AS ", .label name]

variable {b : Bindings}

@[simp] theorem text_nil : text b [] = "" := rfl

@[simp] theorem text_cons (part : Part) (p : Phrase) :
    text b (part :: p) = part.text b ++ text b p := by
  rw [text, List.map_cons, String.join_cons]
  rfl

@[simp] theorem text_append (p q : Phrase) : text b (p ++ q) = text b p ++ text b q := by
  rw [text, List.map_append, String.join_append]
  rfl

theorem text_flatMap {α : Type} (f : α → Phrase) (xs : List α) :
    text b (xs.flatMap f) = String.join (xs.map fun x => text b (f x)) := by
  induction xs with
  | nil => rfl
  | cons x rest ih => rw [List.flatMap_cons, text_append, ih, List.map_cons, String.join_cons]

theorem text_separated (separator : Part) (ps : List Phrase) :
    text b (separated separator ps) =
      String.intercalate (separator.text b) (ps.map (text b)) := by
  induction ps with
  | nil => rfl
  | cons p rest ih =>
    cases rest with
    | nil => simp [separated]
    | cons q more =>
      simp only [separated, List.intercalate_cons_cons] at ih ⊢
      simp [ih, String.append_assoc]

@[simp] theorem text_commas (ps : List Phrase) :
    text b (commas ps) = String.intercalate ", " (ps.map (text b)) := text_separated _ ps

@[simp] theorem rows_nil : rows [] = [] := rfl

@[simp] theorem columns_nil : columns [] = [] := rfl

@[simp] theorem rows_cons (part : Part) (p : Phrase) :
    rows (part :: p) = part.rows?.toList ++ rows p := by
  rw [rows, List.filterMap_cons]
  cases part.rows? <;> rfl

@[simp] theorem columns_cons (part : Part) (p : Phrase) :
    columns (part :: p) = part.column?.toList ++ columns p := by
  rw [columns, List.filterMap_cons]
  cases part.column? <;> rfl

@[simp] theorem rows_append (p q : Phrase) : rows (p ++ q) = rows p ++ rows q :=
  List.filterMap_append

@[simp] theorem columns_append (p q : Phrase) : columns (p ++ q) = columns p ++ columns q :=
  List.filterMap_append

theorem rows_flatMap {α : Type} (f : α → Phrase) (xs : List α) :
    rows (xs.flatMap f) = xs.flatMap fun x => rows (f x) := List.filterMap_flatMap

theorem columns_flatMap {α : Type} (f : α → Phrase) (xs : List α) :
    columns (xs.flatMap f) = xs.flatMap fun x => columns (f x) := List.filterMap_flatMap

theorem filterMap_separated {α : Type} {read : Part → Option α} {separator : Part}
    (plain : read separator = none) (ps : List Phrase) :
    (separated separator ps).filterMap read = ps.flatMap (List.filterMap read) := by
  induction ps with
  | nil => rfl
  | cons p rest ih =>
    cases rest with
    | nil => simp [separated]
    | cons q more =>
      simp only [separated, List.intercalate_cons_cons] at ih ⊢
      simp [ih, plain]

@[simp] theorem rows_separated (w : Words) (ps : List Phrase) :
    rows (separated (.fixed w) ps) = ps.flatMap rows := filterMap_separated rfl ps

@[simp] theorem rows_commas (ps : List Phrase) : rows (commas ps) = ps.flatMap rows :=
  filterMap_separated rfl ps

@[simp] theorem columns_commas (ps : List Phrase) : columns (commas ps) = ps.flatMap columns :=
  filterMap_separated rfl ps

@[simp] theorem rows_named (name : String) : rows (named name) = [] := rfl

@[simp] theorem columns_named (name : String) : columns (named name) = [] := rfl

@[simp] theorem text_named (name : String) : text b (named name) = asName name := by
  simp [named, Part.text, asName, Sql.name]

end Phrase

variable {b : Bindings}

@[simp] theorem Part.text_fixed (w : Words) : Part.text b (.fixed w) = w.text := rfl

@[simp] theorem Part.text_rows (name : String) : Part.text b (.rows name) = Sql.name name := rfl

@[simp] theorem Part.text_label (name : String) : Part.text b (.label name) = Sql.name name := rfl

@[simp] theorem Part.text_column (ref : ColumnRef) : Part.text b (.column ref) = ref.sql := by
  unfold ColumnRef.sql Sql.name Part.text
  simp only [String.append_assoc]

@[simp] theorem Part.text_value (text : Template) : Part.text b (.value text) = text.fill b := rfl

def Equation.phrase (e : Equation) : Phrase :=
  [Part.words "((", .column e.left,
    .fixed (.either e.anyOfRight ⟨") = any (", Eq.refl true⟩ ⟨") = (", Eq.refl true⟩),
    .column e.right, .words "))"]

@[simp] theorem Equation.rows_phrase (e : Equation) : e.phrase.rows = [] := rfl

@[simp] theorem Equation.text_phrase (e : Equation) : e.phrase.text b = e.sql := by
  simp [phrase, Equation.sql, String.append_assoc]

def JunctionJoin.phrase (j : JunctionJoin) : Phrase :=
  [Part.words " LEFT OUTER JOIN ", .rows j.junction, .words " ON "] ++ j.condition.phrase

@[simp] theorem JunctionJoin.text_phrase (j : JunctionJoin) : j.phrase.text b = j.sql := by
  unfold JunctionJoin.sql
  simp [phrase, String.append_assoc]

end Sql

open Sql

variable {b : Bindings}

theorem Operator.symbol_plain (op : Operator) : Sql.isPlain op.symbol = true := by
  cases op <;> decide +kernel

def Operator.word (op : Operator) : Words := ⟨op.symbol, op.symbol_plain⟩

@[simp] theorem Operator.text_word (op : Operator) : op.word.text = op.symbol := rfl

def Predicate.phrase : Predicate → Phrase
  | .constant holds => [.fixed (.either holds ⟨"true", Eq.refl true⟩ ⟨"false", Eq.refl true⟩)]
  | .compare column op operand =>
    [Part.words "((", .column column, .words ")", .fixed op.word,
      .value operand.sql, .words ")"]
  | .nullness column wanted =>
    [Part.words "((", .column column,
      .fixed (.either wanted ⟨") IS NULL)", Eq.refl true⟩ ⟨") IS NOT NULL)", Eq.refl true⟩)]
  | .search column function words =>
    [Part.words "((", .column column, .words ") @@ ", .value function, .words "(",
      .value words.literal, .words "))"]

@[simp] theorem Predicate.text_phrase (p : Predicate) : p.phrase.text b = p.sql.fill b := by
  cases p <;> simp [phrase, Predicate.sql, truthSql, Template.fill_append, Template.fill_text]

def Hop.phrase (h : Hop) : Phrase :=
  [Part.words "EXISTS (SELECT 1 FROM ", .rows h.table] ++
    (h.join.map JunctionJoin.phrase).getD [] ++ [Part.words " WHERE "] ++ h.condition.phrase

@[simp] theorem Hop.text_phrase (h : Hop) : h.phrase.text b = h.sql := by
  unfold Hop.sql
  cases join : h.join <;> simp [phrase, join, String.append_assoc]

def Leaf.phrase (l : Leaf) : Phrase :=
  match l.hops with
  | [] => l.predicate.phrase
  | hops =>
    Phrase.separated (.words " AND ") (hops.map Hop.phrase) ++ [Part.words " AND ("] ++
      l.predicate.phrase ++ [Part.words ")"] ++ List.replicate hops.length (.words ")")

theorem Phrase.text_replicate (n : Nat) :
    Phrase.text b (List.replicate n (.words ")")) = String.ofList (List.replicate n ')') := by
  induction n with
  | zero => rfl
  | succ n ih =>
    rw [List.replicate_succ, Phrase.text_cons, ih, List.replicate_succ, String.ofList_cons]
    rfl

@[simp] theorem Leaf.text_phrase (l : Leaf) : l.phrase.text b = l.sql.fill b := by
  unfold phrase Leaf.sql
  cases l.hops with
  | nil => exact l.predicate.text_phrase
  | cons first rest =>
    have hops : (List.map Hop.phrase (first :: rest)).map (Phrase.text b) =
        (first :: rest).map Hop.sql := by
      rw [List.map_map]
      exact List.map_congr_left fun h _ => h.text_phrase
    simp only [Phrase.text_append, Phrase.text_separated, hops, Phrase.text_replicate,
      Phrase.text_cons, Phrase.text_nil, Part.text_fixed, Predicate.text_phrase,
      Template.fill_append, Template.fill_text, String.append_empty]

def Token.phrase : Token → Phrase
  | .leftParen => [Part.words "("]
  | .rightParen => [Part.words ")"]
  | .and => [Part.words " AND "]
  | .or => [Part.words " OR "]
  | .not => [Part.words "NOT "]
  | .truth value => [.fixed (.either value ⟨"true", Eq.refl true⟩ ⟨"false", Eq.refl true⟩)]
  | .leaf condition => condition.phrase

theorem Token.text_phrase (k : Token) : k.phrase.text b = k.sql.fill b := by
  cases k <;> simp [phrase, Token.sql, truthSql, Template.fill_text]

theorem Token.text_phrases (ts : List Token) :
    Phrase.text b (ts.flatMap Token.phrase) = Template.fill b (ts.flatMap Token.sql) := by
  induction ts with
  | nil => rfl
  | cons k rest ih =>
    rw [List.flatMap_cons, List.flatMap_cons, Phrase.text_append, Template.fill_append, ih,
      k.text_phrase]

end Lateral
