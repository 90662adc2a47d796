import Lateral.Proofs.CommandPhrases
import Lateral.Proofs.GroupedSelections
import Lateral.Proofs.Presets

/-!
Lists of allowed columns. A requested name stands for a value that reads one column at most, however
the name is spelled, and a list of allowed columns hides it if that column is not in the list:
nothing else changes. In the JSON row of a selection, every entry of a requested name then reads an
allowed column or is the text that says that the name is unknown. A mutation with such a list takes
no other column of its root from the data.
-/

namespace Lateral

namespace Sql.Expression

mutual

def columns : Expression → List ColumnRef
  | .column ref => [ref]
  | .literal _ => []
  | .call _ arguments => columnsOf arguments

def columnsOf : List Expression → List ColumnRef
  | [] => []
  | e :: rest => e.columns ++ columnsOf rest

end

end Sql.Expression

namespace FieldKind

def column? : FieldKind → Option Column
  | .plain c | .aggregate _ c | .searchRank c | .searchHeadline c => some c
  | .undefined => none

def reads (kind : FieldKind) (p : Column → Bool) : Bool := kind.column?.all p

variable {s : Selection} {t : Table}

theorem gated_filter (column : Column) (kind : FieldKind) (own : kind.column? = some column) :
    gated s column kind = (some kind).filter fun k => k.reads fun c => s.allows c.name := by
  unfold gated
  simp [Option.filter, reads, own]

theorem ofColumn?_filter (column : Option Column) (make : Column → FieldKind)
    (own : ∀ c, (make c).column? = some c) : ofColumn? s column make =
      (ofColumn? { s with allowed := [] } column make).filter fun k =>
        k.reads fun c => s.allows c.name := by
  cases column with
  | none => rfl
  | some c =>
    have unlisted : ofColumn? { s with allowed := [] } (some c) make = some (make c) := rfl
    rw [unlisted, ← gated_filter c _ (own c)]
    rfl

theorem ofSearch?_filter (name : String) : ofSearch? s t name =
    (ofSearch? { s with allowed := [] } t name).map fun found =>
      found.filter fun kind => kind.reads fun c => s.allows c.name := by
  unfold ofSearch?
  by_cases searched : s.search.isNone = true
  · rw [if_pos searched, if_pos searched]
    rfl
  · rw [if_neg searched, if_neg searched]
    by_cases ranked : name = rankName
    · rw [if_pos ranked, if_pos ranked, ofColumn?_filter _ _ fun _ => rfl]
      rfl
    · rw [if_neg ranked, if_neg ranked, Option.map_map]
      congr 1
      funext rest
      exact ofColumn?_filter _ _ fun _ => rfl

/-- A list of allowed columns hides names by the column that they read, and does nothing else. -/
theorem classify_filter (name : String) : classify s t name =
    (classify { s with allowed := [] } t name).filter fun kind =>
      kind.reads fun c => s.allows c.name := by
  unfold classify
  cases t.column? name with
  | some c => exact gated_filter c _ rfl
  | none =>
    dsimp only
    rw [ofSearch?_filter]
    cases ofSearch? { s with allowed := [] } t name with
    | some found => rfl
    | none =>
      cases Aggregate.split? name with
      | some parts => exact ofColumn?_filter _ _ fun _ => rfl
      | none => rfl

theorem gated_column {c d : Column} {made kind : FieldKind} (run : gated s c made = some kind)
    (own : made.column? = some c) (read : kind.column? = some d) : d = c := by
  rw [gated_eq_some run, own] at read
  exact (Option.some.inj read).symm

theorem ofColumn?_column {column : Option Column} {make : Column → FieldKind} {kind : FieldKind}
    {c : Column} (run : ofColumn? s column make = some kind) (own : ∀ d, (make d).column? = some d)
    (read : kind.column? = some c) : column = some c := by
  cases column with
  | none =>
    cases run
    cases read
  | some d => rw [gated_column run (own d) read]

theorem classify_column {name : String} {kind : FieldKind} {c : Column}
    (run : classify s t name = some kind) (read : kind.column? = some c) : c ∈ t.columns := by
  unfold classify at run
  cases found : t.column? name with
  | some d =>
    simp only [found] at run
    rw [gated_column run rfl read]
    exact Table.column?_mem found
  | none =>
    simp only [found] at run
    cases searched : ofSearch? s t name with
    | some value =>
      simp only [searched] at run
      subst run
      unfold ofSearch? at searched
      split at searched
      · cases searched
      · split at searched
        · have known := ofColumn?_column (Option.some.inj searched) (fun _ => rfl) read
          exact Table.at?_mem known
        · obtain ⟨rest, -, made⟩ := Option.map_eq_some_iff.mp searched
          exact Table.column?_mem (ofColumn?_column made (fun _ => rfl) read)
    | none =>
      simp only [searched] at run
      cases parted : Aggregate.split? name with
      | some parts =>
        simp only [parted] at run
        exact Table.column?_mem (ofColumn?_column run (fun _ => rfl) read)
      | none =>
        simp only [parted] at run
        cases run
        cases read

end FieldKind

/-- The requested fields that a list of allowed columns shows, with what they stand for: those that
read no column, or one in the list. -/
def Selection.shown (s : Selection) (t : Table) : List (Field × FieldKind) :=
  s.fields.filterMap fun f =>
    ((FieldKind.classify { s with allowed := [] } t f.name).filter fun kind =>
      kind.reads fun c => s.allowed.contains c.name).map fun kind => (f, kind)

theorem Selection.allows_eq {s : Selection} (listed : s.allowed ≠ []) (name : String) :
    s.allows name = s.allowed.contains name := by
  have some_listed : s.allowed.isEmpty = false := by simpa using listed
  rw [allows, some_listed, Bool.false_or]

namespace Query

variable {s : Selection} {t : Table}

theorem fields_eq_shown (listed : s.allowed ≠ []) : Context.fields s t = s.shown t := by
  unfold Context.fields Selection.shown
  simp only [FieldKind.classify_filter (s := s), Selection.allows_eq listed]

theorem mem_shown {f : Field} {kind : FieldKind} (member : (f, kind) ∈ s.shown t) :
    f ∈ s.fields ∧ FieldKind.classify { s with allowed := [] } t f.name = some kind ∧
      ∀ c, kind.column? = some c → c.name ∈ s.allowed := by
  obtain ⟨g, requested, made⟩ := List.mem_filterMap.mp member
  obtain ⟨other, kept, same⟩ := Option.map_eq_some_iff.mp made
  cases same
  obtain ⟨meaning, reads⟩ := Option.filter_eq_some_iff.mp kept
  refine ⟨requested, meaning, ?_⟩
  intro c read
  simpa [FieldKind.reads, read] using reads

theorem Output.columns_expression (search : Search) (table : String) (f : Field)
    (kind : FieldKind) : ((ofField f kind).expression search table).columns =
      kind.column?.toList.map fun c => ⟨table, c.name⟩ := by
  have words : search.expression.columns = [] := by
    simp [Search.expression, Sql.Expression.columns, Sql.Expression.columnsOf]
  cases kind <;> simp [ofField, expression, FieldKind.column?, Sql.Expression.columns,
    Sql.Expression.columnsOf, words]

def Node.Finds (n : Node) (name : String) (value : Sql.Expression) : Prop :=
  ∃ o ∈ n.base.outputs, o.name = name ∧ o.expression n.base.search n.base.table = value ∧
    ∀ p ∈ n.base.outputs, p.name = name → p = o

/-- An entry of the row shows a requested field: its value reads the column that the field stands
for and no other, or is the text that says that the name is unknown. -/
structure Node.Shows (n : Node) (x : Field × FieldKind) (entry : RowEntry) (name : String)
    (value : Sql.Expression) : Prop where
  entry : entry = .column name x.1.label
  finds : n.Finds name value
  reads : (x.2 = .undefined ∧ value = .literal (Text.quote (x.1.name ++ " not defined"))) ∨
    ∃ col, x.2.column? = some col ∧ value.columns = [⟨n.table, col.name⟩]

theorem Node.openSql_row (n : Node) (b : Bindings) : ∃ before between after,
    Template.fill b n.openSql =
      before ++ n.toHead.rowPhrase.text b ++ between ++ n.base.selectPhrase.text b ++ after := by
  obtain ⟨between, after, base⟩ := n.base.fill_sql (v := b)
  refine ⟨(if n.nested then " LEFT OUTER JOIN LATERAL (" else "(") ++
      (if n.singular then "" else n.listSql),
    (if n.singular then "" else n.orderValues) ++ n.cursorValue ++ " FROM (",
    between ++ n.base.groupPhrase.text b ++ after ++ n.afterBase, ?_⟩
  unfold Node.openSql Head.beforeBase
  simp only [Head.text_rowPhrase, Template.fill_append, Template.fill_text, base,
    String.append_assoc]

section Entries

variable {ctx : Context} {found : Findings}

theorem finds_field {f : Field} {kind : FieldKind} (member : (f, kind) ∈ found.fields) :
    (found.node ctx).Finds (Output.ofField f kind).name
      ((Output.ofField f kind).expression (ctx.search found.selection) found.table.name) := by
  obtain ⟨requested, made⟩ := Context.mem_fields.mp member
  have put_out := Findings.field_put_out requested made
  refine ⟨_, put_out, rfl, rfl, ?_⟩
  intro p other same
  exact List.inj_on_of_nodup_map (Output.merge_names _).1 other put_out same

theorem shows_fields : List.Forall₂
    (fun x entry => ∃ name value, (found.node ctx).Shows x entry name value)
    found.fields (Context.fieldEntries found.fields) := by
  refine List.forall₂_map_right_iff.mpr (List.forall₂_same.mpr ?_)
  rintro ⟨f, kind⟩ member
  refine ⟨_, _, rfl, finds_field member, ?_⟩
  cases read : kind.column? with
  | none =>
    cases kind with
    | undefined => exact .inl ⟨rfl, rfl⟩
    | plain | aggregate | searchRank | searchHeadline => cases read
  | some col =>
    refine .inr ⟨col, rfl, ?_⟩
    rw [Output.columns_expression, read]
    rfl

end Entries

end Query

section Data

variable {rows : Rows} {root : Selection} {children : List Write} {col : Column}

theorem root_source_payload_iff : rows.source? root none children col = some .payload ↔
    col.name ∉ children.filterMap (Write.parentKey? rows.kind) ∧ root.exactPreset? col = none ∧
      root.allows col.name = true ∧ rows.payload.contains col.name = true := by
  rw [← related_lookup_eq_none]
  cases found : (rows.related none children).lookup col.name with
  | some source =>
    simp only [Rows.source?, found, Option.some.injEq, reduceCtorEq, false_and, iff_false]
    exact (key_source found).1
  | none =>
    simp only [Rows.source?, found, Option.isNone_none, ↓reduceIte, Selection.sourceOf,
      Selection.exactPreset?, true_and]
    cases root.presets.find? fun p => p.column = col.name with
    | some p => simp
    | none => simp [Rows.fromPayload]

end Data

theorem Compiler.compile_of_writes {c : Compiler} {r : Request} {given : Variables} {kind : RowKind}
    (writes : r.operation.rowKind? = some kind) :
    c.compile r given = c.compileMutation r given := by
  unfold Compiler.compile
  cases operation : r.operation with
  | query => simp [operation, Operation.rowKind?] at writes
  | insert | upsert | update | delete => rfl

theorem WriteRun.root_taken {c : Compiler} {r : Request} {given : Variables}
    (run : WriteRun c r given) : ∃ root ∈ run.ctes, run.ctx.step run.chain.rootStep = .ok [root] ∧
      ∀ col, ⟨col, .payload⟩ ∈ root.command.columns ↔ col ∈ run.ctx.table.columns ∧
        col.name ∉ run.chain.keyColumns ∧ run.ctx.root.exactPreset? col = none ∧
        run.ctx.root.allows col.name = true ∧ run.chain.root.payload.contains col.name = true := by
  obtain ⟨root, member, made, columns⟩ := run.root_command
  obtain ⟨-, -, table, -⟩ := Mutation.build_root run.built
  refine ⟨root, member, made, fun col => ?_⟩
  rw [columns, mem_assignments, root_source_payload_iff, table]
  rfl

theorem Command.assigns_columns {command : Command} (some_column : command.columns ≠ []) :
    command.Assigns command.columns := by
  cases command with
  | insert => exact assigns_insert ..
  | update => exact assigns_update ..
  | _ => exact absurd rfl some_column

/-- Whatever a statement shows of the requested fields of a selection with a list of allowed columns
reads columns in the list only, and what it hides reads another one. A mutation takes those columns
of its root from the data that are in the list, and no other. -/
theorem allow_list_gates {c : Compiler} {r : Request} {given : Variables} {statement : Statement}
    (compiled : c.compile r given = .ok statement) :
    (∃ events, (c.queryContext r r.absorbedRoot).Reads (c.bindings given) statement events ∧
      ∀ (n : Query.Node) (s : Selection) (t : Table), .enter n ∈ events →
        r.selections[n.id]? = some s → c.schema.table s.table = .ok t → s.allowed ≠ [] →
        ∃ rows links, s.children.mapM ((c.queryContext r r.absorbedRoot).link s) = .ok links ∧
          n.entries = rows ++ (c.queryContext r r.absorbedRoot).linkEntries links ∧
          List.Forall₂ (fun x entry => ∃ name value, n.Shows x entry name value) (s.shown t) rows ∧
          (∀ x ∈ s.shown t, ∀ col, x.2.column? = some col →
            col ∈ t.columns ∧ col.name ∈ s.allowed) ∧
          ∃ before between after, statement.sql =
            before ++ n.toHead.rowPhrase.text (c.bindings given) ++ between ++
              n.base.selectPhrase.text (c.bindings given) ++ after) ∧
    ∀ kind, r.operation.rowKind? = some kind → ∃ run : WriteRun c r given,
      run.statement = statement ∧ ∃ root ∈ run.ctes,
        run.ctx.step run.chain.rootStep = .ok [root] ∧
        (∀ b, root.command.sql.fill b = root.command.phrase.text b) ∧
        (root.command.columns ≠ [] → root.command.Assigns root.command.columns) ∧
        (run.ctx.root.allowed ≠ [] →
          ∀ col, ⟨col, .payload⟩ ∈ root.command.columns ↔ col.name ∈ run.ctx.root.allowed ∧
            col ∈ run.ctx.table.columns ∧ col.name ∉ run.chain.keyColumns ∧
            run.ctx.root.exactPreset? col = none ∧
            run.chain.root.payload.contains col.name = true) := by
  constructor
  · obtain ⟨events, reads⟩ := Compiler.compile_reads_root compiled
    refine ⟨events, reads, ?_⟩
    intro n s t begun known table listed
    obtain ⟨found, made, node⟩ := reads.found begun
    have own : found.selection = s := made.selection_eq known
    subst own
    have same : found.table = t := Except.ok.inj (made.table.symm.trans table)
    subst same
    have shown : found.fields = found.selection.shown found.table := Query.fields_eq_shown listed
    refine ⟨Query.Context.fieldEntries found.fields, found.links, made.links, ?_, ?_, ?_, ?_⟩
    · rw [node]
      rfl
    · rw [node, ← shown]
      exact Query.shows_fields
    · rintro ⟨f, kind⟩ member col read
      obtain ⟨-, meaning, allowed⟩ := Query.mem_shown member
      exact ⟨FieldKind.classify_column meaning read, allowed col read⟩
    · obtain ⟨front, back, text⟩ := reads.open_text begun
      obtain ⟨before, between, after, opened⟩ := n.openSql_row (c.bindings given)
      refine ⟨front ++ before, between, after ++ back, ?_⟩
      rw [text, opened]
      simp only [String.append_assoc]
  · intro kind writes
    rw [Compiler.compile_of_writes writes] at compiled
    obtain ⟨run, same⟩ := WriteRun.of_compiled writes compiled
    obtain ⟨root, member, made, taken⟩ := run.root_taken
    refine ⟨run, same, root, member, made, fun b => root.command.text_phrase.symm,
      Command.assigns_columns, ?_⟩
    intro listed col
    rw [taken col, Selection.allows_eq listed, List.contains_iff_mem]
    tauto

def openTexts : Selection where
  table := "proofs"
  label := "proofs"
  fields := ["TEXT", "human_id", "max_text", "max_human_id", "wit"].map .ofName
  allowed := ["text"]

def signProof : Request := .mutation .insert "data" [openTexts]

def signedProof : Variables := ⟨[("data", .obj [("text", .str "by cases"), ("human_id", .int 1)])]⟩

theorem signedProof_gated : ∃ statement events n,
    proofCompiler.compile signProof signedProof = .ok statement ∧
    (proofCompiler.queryContext signProof (some 0)).Reads (proofCompiler.bindings signedProof)
      statement events ∧
    .enter n ∈ events ∧
    n.entries = [.column "text" "TEXT", .column "max_text" "max_text", .column "wit" "wit"] ∧
    List.Forall₂ (fun x entry => ∃ name value, n.Shows x entry name value)
      (openTexts.shown proofTable) n.entries ∧
    ∃ run : WriteRun proofCompiler signProof signedProof, run.statement = statement ∧
      ∃ root ∈ run.ctes, ⟨proofText, .payload⟩ ∈ root.command.columns ∧
        ⟨proofAuthor, .payload⟩ ∉ root.command.columns := by
  have facts : (do
      let _ ← proofCompiler.compile signProof signedProof
      let n ← (proofCompiler.queryContext signProof (some 0)).node 0
      let data ← Compiler.payload signProof signedProof
      let chain ← Mutation.build proofCompiler.schema .insert proofTable data.2
      return (n.entries, chain.keyColumns, chain.root.payload.contains "text")) =
      (.ok ([.column "text" "TEXT", .column "max_text" "max_text", .column "wit" "wit"], [], true) :
        Except Error _) := by
    decide +kernel
  simp only [Outcome.bind_eq_ok, Outcome.pure_eq_ok, Prod.mk.injEq] at facts
  obtain ⟨statement, compiled, n, worked, ⟨name, value⟩, loaded, chain, built, entries, keys,
    supplied⟩ := facts
  have table : proofCompiler.schema.table "proofs" = .ok proofTable := by decide +kernel
  have gated : openTexts.allowed ≠ [] := by decide
  obtain ⟨⟨events, reads, each⟩, writes⟩ := allow_list_gates compiled
  obtain ⟨m, begun, own, found⟩ := reads.entered_root List.mem_cons_self
  cases Except.ok.inj (worked.symm.trans found)
  obtain ⟨rows, links, related, listed, shows, -⟩ :=
    each n openTexts proofTable begun (by rw [own]; rfl) table gated
  have alone : rows = n.entries := by
    rw [listed, ← Outcome.pure_eq_ok.mp related]
    exact (List.append_nil rows).symm
  obtain ⟨run, same, root, among, -, -, -, gates⟩ := writes .insert rfl
  obtain ⟨selected, own_table⟩ := run.root_eq rfl rfl table
  rw [selected, own_table, run.chain_eq rfl own_table loaded built, keys] at gates
  refine ⟨statement, events, n, compiled, reads, begun, entries, alone ▸ shows, run, same, root,
    among, ?_, ?_⟩
  · exact (gates gated proofText).mpr
      ⟨by decide, by decide, List.not_mem_nil, by decide, supplied⟩
  · intro taken
    exact absurd ((gates gated proofAuthor).mp taken).1 (by decide)

end Lateral
