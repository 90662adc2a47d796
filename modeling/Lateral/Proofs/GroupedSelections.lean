import Lateral.Proofs.ColumnPositions
import Lateral.Proofs.SuppliedColumns

/-!
Selections with an aggregate. The values that a row source puts out are expressions over the columns
of its table. A column that some of them reads outside of the call of an aggregate has to be one
that the rows are grouped by, and so has every column that tells distinct rows apart or orders them.
The rows are grouped by those columns, each once, and by no other.
-/

namespace Lateral

namespace Sql

inductive Expression where
  | column (ref : ColumnRef)
  | literal (text : Template)
  | call (function : String) (arguments : List Expression)

def isAggregate (function : String) : Bool :=
  Aggregate.openings.any fun entry => entry.2.name = function

namespace Expression

mutual

def sql : Expression → Template
  | .column ref => ref.sql
  | .literal text => text
  | .call function arguments => function ++ "(" ++ Template.join ", " (sqlOf arguments) ++ ")"

def sqlOf : List Expression → List Template
  | [] => []
  | e :: rest => e.sql :: sqlOf rest

end

mutual

/-- The columns that are read outside of the calls of aggregates. -/
def freeColumns : Expression → List ColumnRef
  | .column ref => [ref]
  | .literal _ => []
  | .call function arguments => if isAggregate function then [] else freeColumnsOf arguments

def freeColumnsOf : List Expression → List ColumnRef
  | [] => []
  | e :: rest => e.freeColumns ++ freeColumnsOf rest

end

end Expression

theorem isAggregate_name (g : Aggregate) : isAggregate g.name = true := by
  cases g <;> decide

end Sql

namespace Query
open Outcome Sql

def Search.expression (s : Search) : Expression := .call s.function [.literal s.words.literal]

namespace Output

def expression (search : Search) (table : String) : Output → Expression
  | .column c => .column ⟨table, c⟩
  | .aggregate g c _ => .call g.name [.column ⟨table, c⟩]
  | .searchRank c _ => .call "ts_rank" [.column ⟨table, c⟩, search.expression]
  | .searchHeadline c _ => .call "ts_headline" [.column ⟨table, c⟩, search.expression]
  | .undefined name => .literal (Text.quote (name ++ " not defined"))

def naming : Output → Phrase
  | .column _ => []
  | .aggregate _ _ name | .searchRank _ name | .searchHeadline _ name | .undefined name =>
    Phrase.named name

theorem fill_expression {b : Bindings} (search : Search) (table : String) (o : Output) :
    Template.fill b (o.sql search table) =
      Template.fill b (o.expression search table).sql ++ o.naming.text b := by
  have words : Template.fill b search.expression.sql = Template.fill b search.sql := by
    simp [Search.sql, Search.expression, Expression.sql, Expression.sqlOf, Template.join,
      Template.fill_append, Template.fill_text]
  cases o with
  | column c => simp [Output.sql, expression, Expression.sql, naming]
  | aggregate g c name =>
    simp [Output.sql, expression, Expression.sql, Expression.sqlOf, naming, Template.join,
      Template.fill_append, Template.fill_text, String.append_assoc]
  | searchRank c name | searchHeadline c name =>
    simp [Output.sql, expression, Expression.sql, Expression.sqlOf, naming, Template.join,
      Template.fill_append, Template.fill_text, words, String.ext_iff]
  | undefined name =>
    simp [Output.sql, expression, Expression.sql, naming, Template.fill_append, Template.fill_text]

theorem freeColumns_expression (search : Search) (table : String) (o : Output) :
    (o.expression search table).freeColumns =
      o.groupedColumn?.toList.map fun c => ⟨table, c⟩ := by
  have words : search.expression.freeColumns = [] := by
    simp [Search.expression, Expression.freeColumns, Expression.freeColumnsOf]
  have rank : isAggregate "ts_rank" = false := by decide
  have headline : isAggregate "ts_headline" = false := by decide
  cases o with
  | column c => rfl
  | aggregate g c name =>
    simp [expression, Expression.freeColumns, isAggregate_name, groupedColumn?]
  | searchRank c name =>
    simp [expression, Expression.freeColumns, Expression.freeColumnsOf, rank, words, groupedColumn?]
  | searchHeadline c name =>
    simp [expression, Expression.freeColumns, Expression.freeColumnsOf, headline, words,
      groupedColumn?]
  | undefined name => rfl

theorem find?_merge (outputs : List Output) (x : String) :
    (merge outputs).find? (fun o => o.name = x) = outputs.find? fun o => o.name = x := by
  have from_any (start : List Output) :
      (outputs.foldl add start).find? (fun o => o.name = x) =
        (start ++ outputs).find? fun o => o.name = x := by
    induction outputs generalizing start with
    | nil => simp
    | cons o rest ih =>
      rw [List.foldl_cons, ih]
      unfold add
      split
      · rename_i known
        -- An output that is left out is found in no case: one of its name stands before it.
        rw [List.find?_append, List.find?_append]
        by_cases own : o.name = x
        · obtain ⟨p, member, same⟩ := List.any_eq_true.mp known
          have before : (start.find? fun p => p.name = x).isSome = true := by
            rw [List.find?_isSome]
            exact ⟨p, member, by simpa [own] using same⟩
          obtain ⟨q, found⟩ := Option.isSome_iff_exists.mp before
          rw [found]
          rfl
        · rw [List.find?_cons_of_neg (by simpa using own)]
      · rw [List.append_assoc, List.singleton_append]
  exact from_any []

theorem find?_of_mem {outputs : List Output} {o : Output} (member : o ∈ outputs) :
    ∃ p ∈ outputs, p.name = o.name ∧ outputs.find? (fun q => q.name = o.name) = some p := by
  have found : (outputs.find? fun q => q.name = o.name).isSome = true := by
    rw [List.find?_isSome]
    exact ⟨o, member, by simp⟩
  obtain ⟨p, first⟩ := Option.isSome_iff_exists.mp found
  exact ⟨p, List.mem_of_find?_eq_some first, by simpa using List.find?_some first, first⟩

theorem mem_merge {outputs : List Output} {o : Output} :
    o ∈ merge outputs ↔ outputs.find? (fun p => p.name = o.name) = some o := by
  rw [← find?_merge]
  constructor
  · intro member
    obtain ⟨p, among, same, first⟩ := find?_of_mem member
    rw [first, List.inj_on_of_nodup_map (merge_names outputs).1 among member same]
  · exact List.mem_of_find?_eq_some

theorem merge_subset (outputs : List Output) : merge outputs ⊆ outputs := by
  intro o member
  exact List.mem_of_find?_eq_some (mem_merge.mp member)

theorem mem_merge_of_same {front : List Output} {o : Output} (member : o ∈ front)
    (same : ∀ p ∈ front, p.name = o.name → p = o) (back : List Output) :
    o ∈ merge (front ++ back) := by
  obtain ⟨p, among, named, first⟩ := find?_of_mem member
  rw [mem_merge, List.find?_append, first, same p among named]
  rfl

end Output

namespace BaseSource

def freeColumns (b : BaseSource) : List ColumnRef :=
  b.outputs.flatMap fun o => (o.expression b.search b.table).freeColumns

def columnsPhrase (b : BaseSource) (columns : List String) : Phrase :=
  Phrase.commas (columns.map fun c => [.column ⟨b.table, c⟩])

def selectPhrase (b : BaseSource) : Phrase :=
  [Part.words "SELECT "] ++
    (if b.distinctOn.isEmpty then []
      else [Part.words "DISTINCT ON ("] ++ b.columnsPhrase b.distinctOn ++ [Part.words ") "]) ++
    Phrase.commas (b.outputs.map fun o =>
      .value (o.expression b.search b.table).sql :: o.naming) ++
    [Part.words " FROM ", .rows b.table]

def groupPhrase (b : BaseSource) : Phrase :=
  (if b.groupBy.isEmpty then [] else .words " GROUP BY " :: b.columnsPhrase b.groupBy) ++
    if b.orderBy.isEmpty then []
    else .words " ORDER BY " :: Phrase.commas (b.orderBy.map fun o =>
      [.column ⟨b.table, o.1⟩, .words " ", .fixed o.2.word])

section Text

variable {v : Bindings}

theorem text_columnsPhrase (b : BaseSource) (columns : List String) :
    (b.columnsPhrase columns).text v =
      commaList (columns.map fun c => (ColumnRef.mk b.table c).sql) := by
  simp [columnsPhrase, commaList, Function.comp_def]

theorem text_selectPhrase (b : BaseSource) : b.selectPhrase.text v =
    "SELECT " ++
      (if b.distinctOn.isEmpty then ""
        else columnClause "DISTINCT ON (" b.table b.distinctOn ++ ") ") ++
      Template.fill v (Template.join ", " (b.outputs.map (Output.sql b.search b.table))) ++
      " FROM " ++ Sql.name b.table := by
  have outputs : (b.outputs.map fun o =>
      Part.value (o.expression b.search b.table).sql :: o.naming).map (Phrase.text v) =
      (b.outputs.map (Output.sql b.search b.table)).map (Template.fill v) := by
    rw [List.map_map, List.map_map]
    refine List.map_congr_left fun o _ => ?_
    simp only [Function.comp_apply, Phrase.text_cons, Part.text_value, o.fill_expression]
  unfold selectPhrase columnClause
  cases told : b.distinctOn.isEmpty <;>
    simp [outputs, text_columnsPhrase, Template.fill_join, String.append_assoc]

theorem text_groupPhrase (b : BaseSource) : b.groupPhrase.text v =
    columnClause " GROUP BY " b.table b.groupBy ++ orderClause b.table b.orderBy := by
  unfold groupPhrase columnClause orderClause
  cases b.groupBy.isEmpty <;> cases b.orderBy.isEmpty <;>
    simp [text_columnsPhrase, commaList, Function.comp_def, String.append_assoc]

theorem fill_sql (b : BaseSource) : ∃ between after, Template.fill v b.sql =
    b.selectPhrase.text v ++ between ++ b.groupPhrase.text v ++ after := by
  refine ⟨(b.join.map JunctionJoin.sql).getD "" ++ Template.fill v (whereSql b.restrictions),
    Template.fill v (countClause " LIMIT " b.limit) ++
      Template.fill v (countClause " OFFSET " b.offset), ?_⟩
  unfold BaseSource.sql
  simp only [text_selectPhrase, text_groupPhrase, Template.fill_append, Template.fill_text,
    String.append_assoc]

end Text

/-- The rows are grouped by the columns that are read outside of aggregates, each once, and nothing
else tells them apart or orders them. -/
structure Grouped (b : BaseSource) : Prop where
  own : ∀ ref ∈ b.freeColumns, ref.source = b.table
  exact : ∀ column, column ∈ b.groupBy ↔ ⟨b.table, column⟩ ∈ b.freeColumns
  once : b.groupBy.Nodup
  told : b.distinctOn ⊆ b.groupBy
  ordered : b.orderBy.map Prod.fst ⊆ b.groupBy

theorem mem_freeColumns {b : BaseSource} {ref : ColumnRef} :
    ref ∈ b.freeColumns ↔
      ∃ o ∈ b.outputs, ∃ column, o.groupedColumn? = some column ∧ ref = ⟨b.table, column⟩ := by
  simp only [freeColumns, List.mem_flatMap, Output.freeColumns_expression, List.mem_map,
    Option.mem_toList, eq_comm]

end BaseSource

end Query

namespace FieldKind

def grouped? : FieldKind → Option Column
  | .plain c | .searchRank c | .searchHeadline c => some c
  | .aggregate _ _ | .undefined => none

variable {s : Selection} {t : Table} {name : String} {kind : FieldKind}

structure IsValue (t : Table) (kind : FieldKind) : Prop where
  not_plain : ∀ c, kind ≠ .plain c
  reads : ∀ c, kind.grouped? = some c → c ∈ t.columns

theorem gated_eq_some {c : Column} {made : FieldKind} (run : gated s c made = some kind) :
    kind = made := by
  unfold gated at run
  split at run
  · exact (Option.some.inj run).symm
  · cases run

theorem undefined_isValue : IsValue t .undefined where
  not_plain := by simp
  reads := by simp [grouped?]

theorem ofColumn?_isValue {column : Option Column} {make : Column → FieldKind}
    (run : ofColumn? s column make = some kind) (known : ∀ c, column = some c → c ∈ t.columns)
    (value : ∀ c d, make c ≠ .plain d) (reads : ∀ c d, (make c).grouped? = some d → d = c) :
    kind.IsValue t := by
  unfold ofColumn? at run
  cases column with
  | none =>
    cases run
    exact undefined_isValue
  | some c =>
    rw [gated_eq_some run]
    refine ⟨value c, ?_⟩
    intro d read
    rw [reads c d read]
    exact known c rfl

theorem ofSearch?_isValue (run : ofSearch? s t name = some (some kind)) : kind.IsValue t := by
  unfold ofSearch? at run
  split at run
  · cases run
  · split at run
    · exact ofColumn?_isValue (Option.some.inj run) (fun c => Table.at?_mem) (by simp)
        (by simp [grouped?])
    · obtain ⟨rest, -, run⟩ := Option.map_eq_some_iff.mp run
      exact ofColumn?_isValue run (fun c => Table.column?_mem) (by simp) (by simp [grouped?])

/-- A name stands for a column, or for a value that has the name of no column. -/
theorem classify_cases (run : classify s t name = some kind) :
    (∃ c, t.column? name = some c ∧ kind = .plain c) ∨
      t.column? name = none ∧ kind.IsValue t := by
  unfold classify at run
  cases found : t.column? name with
  | some c =>
    simp only [found] at run
    exact Or.inl ⟨c, rfl, gated_eq_some run⟩
  | none =>
    refine Or.inr ⟨rfl, ?_⟩
    simp only [found] at run
    cases searched : ofSearch? s t name with
    | some value =>
      simp only [searched] at run
      subst run
      exact ofSearch?_isValue searched
    | none =>
      simp only [searched] at run
      cases parted : Aggregate.split? name with
      | some parts =>
        simp only [parted] at run
        exact ofColumn?_isValue run (fun c => Table.column?_mem) (by simp) (by simp [grouped?])
      | none =>
        simp only [parted] at run
        cases run
        exact undefined_isValue

end FieldKind

def Selection.HasAggregate (s : Selection) (t : Table) : Prop :=
  ∃ f ∈ s.fields, ∃ g c, FieldKind.classify s t f.name = some (.aggregate g c)

namespace Query
open Outcome

/-- The columns of its table that a selection asks for outside of aggregates: those of its fields,
those that relate its children to it, and those by which its rows are told apart, ordered and
paged. -/
inductive Context.Asks (ctx : Context) (s : Selection) (t : Table) : String → Prop where
  | field {f : Field} {kind : FieldKind} {c : Column} (listed : f ∈ s.fields)
      (made : FieldKind.classify s t f.name = some kind) (read : kind.grouped? = some c) :
      Asks ctx s t c.name
  | link {id : Nat} {child : Selection} {e : Edge} (listed : id ∈ s.children)
      (known : ctx.request.selections[id]? = some child)
      (edge : ctx.schema.edge? child.table s.table = some e) :
      Asks ctx s t (if e.isRemote then e.left.column else e.right.column)
  | distinction {name : String} {c : Column} (listed : name ∈ s.distinctOn)
      (known : t.column? name = some c) : Asks ctx s t c.name
  | ordering {o : Ordering} {c : Column} (listed : o ∈ s.orderBy)
      (known : t.column? o.column = some c) : Asks ctx s t c.name
  | cursor {key : Column} (paged : ctx.hasCursor s = true) (known : t.primary? = some key) :
      Asks ctx s t key.name

namespace Output

theorem groupedColumn?_ofField (f : Field) (kind : FieldKind) :
    (ofField f kind).groupedColumn? = kind.grouped?.map Column.name := by
  cases kind <;> rfl

theorem ofField_name (f : Field) {kind : FieldKind} (value : ∀ c, kind ≠ .plain c) :
    (ofField f kind).name = f.name := by
  cases kind with
  | plain c => exact absurd rfl (value c)
  | aggregate | searchRank | searchHeadline | undefined => rfl

theorem ofField_congr {f g : Field} (same : f.name = g.name) (kind : FieldKind) :
    ofField f kind = ofField g kind := by
  cases kind <;> simp [ofField, same]

end Output

theorem Context.mem_fields {s : Selection} {t : Table} {f : Field} {kind : FieldKind} :
    (f, kind) ∈ Context.fields s t ↔ f ∈ s.fields ∧ FieldKind.classify s t f.name = some kind := by
  simp only [Context.fields, List.mem_filterMap, Option.map_eq_some_iff, Prod.mk.injEq]
  constructor
  · rintro ⟨g, listed, other, made, rfl, rfl⟩
    exact ⟨listed, made⟩
  · rintro ⟨listed, made⟩
    exact ⟨f, listed, kind, made, rfl, rfl⟩

namespace Findings

variable {ctx : Context} {found : Findings}

def fieldOutputs (found : Findings) : List Output :=
  found.fields.map fun x => Output.ofField x.1 x.2

def candidates (found : Findings) : List Output :=
  found.fieldOutputs ++ found.extra.map Output.column

theorem outputs_eq : found.outputs = Output.merge found.candidates := rfl

theorem mem_fieldOutputs {o : Output} :
    o ∈ found.fieldOutputs ↔ ∃ f ∈ found.selection.fields, ∃ kind,
      FieldKind.classify found.selection found.table f.name = some kind ∧
        Output.ofField f kind = o := by
  simp only [fieldOutputs, Plan.fields, List.mem_map, Prod.exists, Context.mem_fields]
  constructor
  · rintro ⟨f, kind, ⟨listed, made⟩, same⟩
    exact ⟨f, listed, kind, made, same⟩
  · rintro ⟨f, listed, kind, made, same⟩
    exact ⟨f, kind, ⟨listed, made⟩, same⟩

theorem mem_candidates {o : Output} :
    o ∈ found.candidates ↔
      o ∈ found.fieldOutputs ∨ ∃ column ∈ found.extra, Output.column column = o := by
  rw [candidates, List.mem_append, List.mem_map]

theorem eq_column_of_name {o : Output} (member : o ∈ found.candidates)
    (own : (found.table.column? o.name).isSome = true) : o = .column o.name := by
  rcases mem_candidates.mp member with field | ⟨column, -, rfl⟩
  · obtain ⟨f, -, kind, made, rfl⟩ := mem_fieldOutputs.mp field
    rcases FieldKind.classify_cases made with ⟨c, -, rfl⟩ | ⟨unknown, value⟩
    · rfl
    · rw [Output.ofField_name f value.not_plain, unknown] at own
      cases own
  · rfl

theorem column_put_out {column : String} (member : .column column ∈ found.candidates)
    (own : (found.table.column? column).isSome = true) : .column column ∈ found.outputs := by
  rw [outputs_eq, ← List.append_nil found.candidates]
  apply Output.mem_merge_of_same member
  intro p listed named
  have same : p.name = column := named
  rw [eq_column_of_name listed (same ▸ own), same]

/-- Every field that is not hidden is put out. No other one takes its name: a column has another
name, and what else has the same name stands for the same value. -/
theorem field_put_out {f : Field} {kind : FieldKind} (listed : f ∈ found.selection.fields)
    (made : FieldKind.classify found.selection found.table f.name = some kind) :
    Output.ofField f kind ∈ found.outputs := by
  have member : Output.ofField f kind ∈ found.fieldOutputs :=
    mem_fieldOutputs.mpr ⟨f, listed, kind, made, rfl⟩
  rcases FieldKind.classify_cases made with ⟨c, known, rfl⟩ | ⟨unknown, value⟩
  · exact column_put_out (mem_candidates.mpr (Or.inl member))
      (Table.column?_own (Table.column?_mem known))
  · apply Output.mem_merge_of_same member
    intro p among named
    obtain ⟨g, -, other, made', rfl⟩ := mem_fieldOutputs.mp among
    rw [Output.ofField_name f value.not_plain] at named
    rcases FieldKind.classify_cases made' with ⟨c, known, rfl⟩ | ⟨-, value'⟩
    · have own := Table.column?_own (Table.column?_mem known)
      have same : c.name = f.name := named
      rw [same, unknown] at own
      cases own
    · rw [Output.ofField_name g value'.not_plain] at named
      rw [named] at made'
      cases Option.some.inj (made.symm.trans made')
      exact Output.ofField_congr named kind

theorem asks_of_extra {id : Nat} (made : ctx.Found id found) {column : String}
    (member : column ∈ found.extra) : ctx.Asks found.selection found.table column := by
  simp only [Plan.extra, List.mem_append, List.mem_map, or_assoc] at member
  rcases member with ⟨l, listed, rfl⟩ | told | ⟨order, asked, rfl⟩ | ⟨key, paged, rfl⟩
  · obtain ⟨child, among, linked⟩ := mapM_made made.links listed
    obtain ⟨other, e, known, edge, ⟨remote, -, rfl⟩ | ⟨joined, rfl⟩⟩ := Context.link_eq_ok linked
    · have asks := Context.Asks.link (t := found.table) among known edge
      rwa [if_pos remote] at asks
    · have asks := Context.Asks.link (t := found.table) among known edge
      rwa [if_neg (by simp [joined])] at asks
  · obtain ⟨name, listed, c, known, rfl⟩ :=
      forall₂_mem_left (Context.distinctColumns_eq_ok made.distinctOn).flip told
    exact .distinction listed known
  · obtain ⟨o, listed, c, known, rfl⟩ :=
      forall₂_mem_left (Context.requestedOrders_eq_ok made.requested).flip asked
    exact .ordering listed known
  · rcases Context.cursorColumn_eq_ok made.cursor with ⟨own, first, known, same⟩ | ⟨-, none⟩
    · rw [same, Option.mem_toList] at paged
      cases paged
      exact .cursor own known
    · rw [none] at paged
      cases paged

theorem candidate_of_asks {id : Nat} (made : ctx.Found id found) {column : String}
    (asks : ctx.Asks found.selection found.table column) :
    (∃ f ∈ found.selection.fields, ∃ kind,
      FieldKind.classify found.selection found.table f.name = some kind ∧
        kind.grouped?.map Column.name = some column) ∨ column ∈ found.extra := by
  simp only [Plan.extra, List.mem_append, List.mem_map, or_assoc]
  cases asks with
  | field listed classified read =>
    exact Or.inl ⟨_, listed, _, classified, by rw [read]; rfl⟩
  | link listed known edge =>
    obtain ⟨l, among, linked⟩ := mapM_mem made.links listed
    obtain ⟨other, e, known', edge', kinds⟩ := Context.link_eq_ok linked
    cases Option.some.inj (known.symm.trans known')
    cases Option.some.inj (edge.symm.trans edge')
    refine Or.inr (Or.inl ⟨l, among, ?_⟩)
    rcases kinds with ⟨remote, -, rfl⟩ | ⟨joined, rfl⟩
    · rw [if_pos remote]
      rfl
    · rw [if_neg (by simp [joined])]
      rfl
  | distinction listed known =>
    obtain ⟨own, among, c, found, rfl⟩ :=
      forall₂_mem_left (Context.distinctColumns_eq_ok made.distinctOn) listed
    cases Option.some.inj (known.symm.trans found)
    exact Or.inr (Or.inr (Or.inl among))
  | ordering listed known =>
    obtain ⟨own, among, c, found, rfl⟩ :=
      forall₂_mem_left (Context.requestedOrders_eq_ok made.requested) listed
    cases Option.some.inj (known.symm.trans found)
    exact Or.inr (Or.inr (Or.inr (Or.inl ⟨_, among, rfl⟩)))
  | cursor paged known =>
    rcases Context.cursorColumn_eq_ok made.cursor with ⟨-, key, found, same⟩ | ⟨unpaged, -⟩
    · cases Option.some.inj (known.symm.trans found)
      exact Or.inr (Or.inr (Or.inr (Or.inr ⟨_, by rw [same]; simp, rfl⟩)))
    · rw [paged] at unpaged
      cases unpaged

theorem mem_groupBy (aggregated : found.selection.HasAggregate found.table) {column : String} :
    column ∈ found.groupBy ↔ ∃ o ∈ found.outputs, o.groupedColumn? = some column := by
  obtain ⟨f, listed, g, c, made⟩ := aggregated
  have some_aggregate : (found.fields.any fun x => x.2.isAggregate) = true :=
    List.any_eq_true.mpr ⟨(f, .aggregate g c), Context.mem_fields.mpr ⟨listed, made⟩, rfl⟩
  have grouped : found.groupBy = distinct (found.outputs.filterMap Output.groupedColumn?) :=
    if_pos some_aggregate
  rw [grouped, mem_distinct, List.mem_filterMap]

theorem groupBy_nodup : found.groupBy.Nodup := by
  unfold Plan.groupBy
  split
  · exact distinct_nodup _
  · exact List.nodup_nil

theorem mem_groupBy_iff_asks {id : Nat} (made : ctx.Found id found)
    (aggregated : found.selection.HasAggregate found.table) {column : String}
    (own : (found.table.column? column).isSome = true) :
    column ∈ found.groupBy ↔ ctx.Asks found.selection found.table column := by
  rw [mem_groupBy aggregated]
  constructor
  · rintro ⟨o, member, read⟩
    rcases mem_candidates.mp (Output.merge_subset _ member) with field | ⟨extra, among, rfl⟩
    · obtain ⟨f, listed, kind, classified, rfl⟩ := mem_fieldOutputs.mp field
      rw [Output.groupedColumn?_ofField] at read
      obtain ⟨c, reads, rfl⟩ := Option.map_eq_some_iff.mp read
      exact .field listed classified reads
    · cases read
      exact asks_of_extra made among
  · intro asks
    rcases candidate_of_asks made asks with ⟨f, listed, kind, classified, read⟩ | among
    · exact ⟨_, field_put_out listed classified, by rw [Output.groupedColumn?_ofField, read]⟩
    · exact ⟨_, column_put_out (mem_candidates.mpr (Or.inr ⟨column, among, rfl⟩)) own, rfl⟩

theorem groupBy_of_asks {id : Nat} (made : ctx.Found id found)
    (aggregated : found.selection.HasAggregate found.table) {c : Column}
    (own : c ∈ found.table.columns) (asks : ctx.Asks found.selection found.table c.name) :
    c.name ∈ found.groupBy :=
  (mem_groupBy_iff_asks made aggregated (Table.column?_own own)).mpr asks

theorem distinctOn_grouped {id : Nat} (made : ctx.Found id found)
    (aggregated : found.selection.HasAggregate found.table) : found.distinctOn ⊆ found.groupBy := by
  intro column told
  obtain ⟨name, listed, c, known, rfl⟩ :=
    forall₂_mem_left (Context.distinctColumns_eq_ok made.distinctOn).flip told
  exact groupBy_of_asks made aggregated (Table.column?_mem known) (.distinction listed known)

theorem orders_grouped {id : Nat} (made : ctx.Found id found)
    (aggregated : found.selection.HasAggregate found.table) :
    found.orders.map Prod.fst ⊆ found.groupBy := by
  intro column ordered
  obtain ⟨order, member, rfl⟩ := List.mem_map.mp ordered
  unfold Plan.orders Context.effectiveOrders at member
  rcases Context.cursorColumn_eq_ok made.cursor with ⟨paged, key, primary, cursor⟩ | ⟨-, none⟩
  · rw [cursor] at member
    rw [List.mem_singleton.mp member]
    exact groupBy_of_asks made aggregated (Table.at?_mem primary)
      (.cursor paged primary)
  · rw [none] at member
    obtain ⟨o, listed, c, known, rfl⟩ :=
      forall₂_mem_left (Context.requestedOrders_eq_ok made.requested).flip member
    exact groupBy_of_asks made aggregated (Table.column?_mem known) (.ordering listed known)

theorem base_grouped {id : Nat} (made : ctx.Found id found)
    (aggregated : found.selection.HasAggregate found.table) : (found.base ctx).Grouped where
  own := by
    intro ref read
    obtain ⟨o, -, column, -, rfl⟩ := BaseSource.mem_freeColumns.mp read
    rfl
  exact := by
    intro column
    rw [BaseSource.mem_freeColumns]
    refine (mem_groupBy aggregated).trans ?_
    constructor
    · rintro ⟨o, member, read⟩
      exact ⟨o, member, column, read, rfl⟩
    · rintro ⟨o, member, other, read, same⟩
      cases same
      exact ⟨o, member, read⟩
  once := groupBy_nodup
  told := distinctOn_grouped made aggregated
  ordered := by
    intro column ordered
    obtain ⟨order, member, rfl⟩ := List.mem_map.mp ordered
    rcases List.mem_append.mp member with leading | following
    · obtain ⟨told, listed, rfl⟩ := List.mem_map.mp leading
      exact distinctOn_grouped made aggregated listed
    · exact orders_grouped made aggregated
        (List.mem_map_of_mem (List.mem_filter.mp following).1)

end Findings

end Query

/-- In every statement, the row source of a rendered selection with an aggregate is grouped exactly
by the columns that its outputs read outside of aggregates, each once. They include the columns that
tell its rows apart and those that order them. Of the columns of its table, they are those that the
selection asks for. The outputs and the grouping stand in the statement as they are written. -/
theorem aggregates_grouped_exactly {c : Compiler} {r : Request} {given : Variables}
    {statement : Statement} (compiled : c.compile r given = .ok statement) :
    ∃ events, (c.queryContext r r.absorbedRoot).Reads (c.bindings given) statement events ∧
      ∀ (n : Query.Node) (s : Selection) (t : Table), .enter n ∈ events →
        r.selections[n.id]? = some s → c.schema.table s.table = .ok t → s.HasAggregate t →
        n.base.Grouped ∧
        (∀ col ∈ t.columns, col.name ∈ n.base.groupBy ↔
          (c.queryContext r r.absorbedRoot).Asks s t col.name) ∧
        ∃ before between after, statement.sql = before ++
          n.base.selectPhrase.text (c.bindings given) ++ between ++
            n.base.groupPhrase.text (c.bindings given) ++ after := by
  obtain ⟨events, reads⟩ := Compiler.compile_reads_root compiled
  refine ⟨events, reads, ?_⟩
  intro n s t begun known table aggregated
  obtain ⟨found, made, node⟩ := reads.found begun
  have own : found.selection = s :=
    Option.some.inj ((Query.Context.selection_eq_ok.mp made.selection).symm.trans known)
  subst own
  have same : found.table = t := Except.ok.inj (made.table.symm.trans table)
  subst same
  obtain ⟨before, after, text⟩ := reads.base_text begun
  obtain ⟨between, rest, base⟩ := n.base.fill_sql (v := c.bindings given)
  refine ⟨?_, ?_, before, between, rest ++ after, ?_⟩
  · rw [node]
    exact Query.Findings.base_grouped made aggregated
  · intro col member
    rw [node]
    exact Query.Findings.mem_groupBy_iff_asks made aggregated (Table.column?_own member)
  · rw [text, base]
    simp only [String.append_assoc]

def countedQuizzes : Selection :=
  { Selection.ofTable 0 "quizzes" with
    fields := [.ofName "count_checker_id"], orderBy := [⟨"ID", .desc⟩], children := [1] }

def theirAuthors : Selection :=
  { Selection.ofTable 1 "humans" with parent := some 0, fields := [.ofName "id"] }

def checkersByQuiz : Request := .query [countedQuizzes, theirAuthors]

theorem checkersByQuiz_grouped : ∃ s statement events n t,
    Schema.ofCatalog quizCatalog {} = .ok s ∧
    Compiler.compile ⟨s, {}⟩ checkersByQuiz {} = .ok statement ∧
    (Compiler.queryContext ⟨s, {}⟩ checkersByQuiz none).Reads (Compiler.bindings ⟨s, {}⟩ {})
      statement events ∧
    .enter n ∈ events ∧ n.id = 0 ∧ s.table "quizzes" = .ok t ∧ countedQuizzes.HasAggregate t ∧
    n.base.Grouped ∧ n.base.groupBy = ["author_id", "id"] ∧
    (Compiler.queryContext ⟨s, {}⟩ checkersByQuiz none).Asks countedQuizzes t "author_id" ∧
    ¬ (Compiler.queryContext ⟨s, {}⟩ checkersByQuiz none).Asks countedQuizzes t "checker_id" := by
  have facts : (do
      let s ← Schema.ofCatalog quizCatalog {}
      let _ ← Compiler.compile ⟨s, {}⟩ checkersByQuiz {}
      let n ← (Compiler.queryContext ⟨s, {}⟩ checkersByQuiz none).node 0
      let t ← s.table "quizzes"
      return (n.base.groupBy, t.columns.map Column.name,
        (FieldKind.classify countedQuizzes t "count_checker_id").map FieldKind.isAggregate)) =
      (.ok (["author_id", "id"], ["id", "author_id", "checker_id"], some true) :
        Except Error _) := by
    decide +kernel
  simp only [Outcome.bind_eq_ok, Outcome.pure_eq_ok, Prod.mk.injEq] at facts
  obtain ⟨s, built, statement, compiled, n, worked, t, table, grouped, columns, aggregate⟩ := facts
  have counted : countedQuizzes.HasAggregate t := by
    obtain ⟨kind, made, own⟩ := Option.map_eq_some_iff.mp aggregate
    cases kind with
    | aggregate g c => exact ⟨.ofName "count_checker_id", List.mem_cons_self, g, c, made⟩
    | plain | searchRank | searchHeadline | undefined => cases own
  obtain ⟨events, reads, each⟩ := aggregates_grouped_exactly compiled
  obtain ⟨m, begun, own, found⟩ := reads.entered_root List.mem_cons_self
  cases Except.ok.inj (worked.symm.trans found)
  obtain ⟨proper, asks, -⟩ := each n countedQuizzes t begun (by rw [own]; rfl) table counted
  have asked {name : String} (listed : name ∈ t.columns.map Column.name) :
      name ∈ n.base.groupBy ↔
        (Compiler.queryContext ⟨s, {}⟩ checkersByQuiz none).Asks countedQuizzes t name := by
    obtain ⟨col, member, rfl⟩ := List.mem_map.mp listed
    exact asks col member
  rw [columns, grouped] at asked
  refine ⟨s, statement, events, n, t, built, compiled, reads, begun, own, table, counted, proper,
    grouped, (asked (by decide)).mp (by decide), ?_⟩
  intro inside
  exact absurd ((asked (by decide)).mpr inside) (by decide)

end Lateral
