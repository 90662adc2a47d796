import Lateral.Proofs.FilterMeaning
import Lateral.Proofs.SuppliedColumns

/-!
Pages that are cut on the primary key. The list of rows is ordered by the key alone, and a given
cursor is compared with the key, strictly and in the direction of the page. In the row source the
key is the whole order exactly if no other column tells distinct rows apart: such columns come
before the key, and a page along them is no page along the keys.
-/

namespace Lateral

def Selection.pageDirection (s : Selection) : Direction :=
  match s.paging.kind with
  | .backward => .desc
  | .forward | .offset => .asc

def Selection.pastCursor (s : Selection) (key : Sql.ColumnRef) (sqlType : String) :
    Option Template :=
  s.paging.cursor.map fun value =>
    "((" ++ key.sql ++ (if s.pageDirection = .desc then ") < " else ") > ") ++
      (Argument.ofText value).typed sqlType ++ ")"

namespace Query
open Outcome

def Restriction.isCursor : Restriction → Bool
  | .cursor .. => true
  | .related _ | .filter _ => false

/-- The rows are paged along the primary key. In the row source, the columns that tell distinct rows
apart come first, and the key goes in the direction of the page wherever it stands. -/
structure Node.PagedBy (n : Node) (s : Selection) (t : Table) (key : Column) : Prop where
  cursor : n.cursor = some key.name
  list : n.orders = [(key.name, s.pageDirection)]
  base : n.base.orderBy =
    (n.base.distinctOn.map fun c => (c, if c = key.name then s.pageDirection else .asc)) ++
      if key.name ∈ n.base.distinctOn then [] else [(key.name, s.pageDirection)]
  compared : (n.base.restrictions.filter Restriction.isCursor).map Restriction.sql =
    (s.pastCursor ⟨t.name, key.name⟩ key.sqlType).toList

namespace Context

theorem isBackward_eq (s : Selection) : isBackward s = decide (s.pageDirection = .desc) := by
  unfold isBackward Selection.pageDirection
  cases s.paging.kind <;> rfl

theorem effectiveOrders_key (s : Selection) (key : Column) (orders : List (String × Direction)) :
    effectiveOrders s (some key) orders = [(key.name, s.pageDirection)] := by
  unfold effectiveOrders isBackward Selection.pageDirection
  cases s.paging.kind <;> rfl

theorem baseOrders_key (distinctOn : List String) (key : String) (direction : Direction) :
    baseOrders distinctOn [(key, direction)] =
      (distinctOn.map fun c => (c, if c = key then direction else .asc)) ++
        if key ∈ distinctOn then [] else [(key, direction)] := by
  unfold baseOrders
  congr 1
  · apply List.map_congr_left
    intro c _
    by_cases own : c = key
    · simp [own]
    · simp [own, Ne.symm own]
  · by_cases listed : key ∈ distinctOn
    · simp [listed]
    · simp [listed]

theorem baseOrders_key_alone_iff (distinctOn : List String) (key : String)
    (direction : Direction) :
    baseOrders distinctOn [(key, direction)] = [(key, direction)] ↔
      distinctOn = [] ∨ distinctOn = [key] := by
  rw [baseOrders_key]
  cases distinctOn with
  | nil => simp
  | cons first rest =>
    by_cases listed : key ∈ first :: rest
    · rw [if_pos listed, List.append_nil]
      constructor
      · intro alone
        simp only [List.map_cons, List.cons.injEq, Prod.mk.injEq, List.map_eq_nil_iff] at alone
        obtain ⟨⟨rfl, -⟩, rfl⟩ := alone
        exact Or.inr rfl
      · rintro (none | alone)
        · cases none
        · simp [alone]
    · rw [if_neg listed]
      constructor
      · intro alone
        -- The key stands behind another column.
        have two := congrArg List.length alone
        simp only [List.length_append, List.length_map, List.length_cons, List.length_nil] at two
        omega
      · rintro (none | alone)
        · cases none
        · rw [alone] at listed
          exact absurd List.mem_cons_self listed

theorem distinctColumns_alone_iff {s : Selection} {t : Table} {distinctOn : List String}
    (run : distinctColumns s t = .ok distinctOn) (key : String) :
    distinctOn = [] ∨ distinctOn = [key] ↔
      s.distinctOn = [] ∨ ∃ name c, s.distinctOn = [name] ∧ t.column? name = some c ∧
        c.name = key := by
  have each := distinctColumns_eq_ok run
  generalize s.distinctOn = names at each
  cases each with
  | nil => simp
  | @cons name own names rest found more =>
    obtain ⟨c, found, rfl⟩ := found
    cases more with
    | nil => simp [found]
    | cons _ _ => simp

variable {ctx : Context}

theorem restrictions_past_cursor {s : Selection} {t : Table} {parent : Option Parent}
    {key : Column} {restrictions : List Restriction}
    (run : ctx.restrictions s t parent (some key) = .ok restrictions)
    (own : ctx.isAbsorbed s = false) :
    (restrictions.filter Restriction.isCursor).map Restriction.sql =
      (s.pastCursor ⟨t.name, key.name⟩ key.sqlType).toList := by
  simp only [Context.restrictions, own, Bool.false_eq_true, if_false, bind_eq_ok, pure_eq_ok] at run
  obtain ⟨filters, each, rfl⟩ := run
  have related : (parent.toList.map fun p => Restriction.related
      (Sql.edgeCondition p.edge p.source)).filter Restriction.isCursor = [] := by
    cases parent <;> rfl
  have filtered : filters.filter Restriction.isCursor = [] := by
    rw [List.filter_eq_nil_iff]
    intro f member
    obtain ⟨filter, -, made⟩ := mapM_made each member
    obtain ⟨tokens, -, made⟩ := bind_eq_ok.mp made
    rw [← pure_eq_ok.mp made]
    simp [Restriction.isCursor]
  rw [List.filter_append, List.filter_append, related, filtered, Selection.pastCursor]
  cases s.paging.cursor with
  | none => rfl
  | some value =>
    change [Restriction.sql _] = [_]
    simp only [Restriction.sql, isBackward_eq, decide_eq_true_eq]

theorem node_pagedBy {id : Nat} {found : Findings} (made : ctx.Found id found)
    (paged : ctx.hasCursor found.selection = true) :
    ∃ key, found.table.primary? = some key ∧
      (found.node ctx).PagedBy found.selection found.table key ∧
      ((found.node ctx).base.orderBy = [(key.name, found.selection.pageDirection)] ↔
        found.selection.distinctOn = [] ∨ ∃ name c, found.selection.distinctOn = [name] ∧
          found.table.column? name = some c ∧ c.name = key.name) := by
  obtain ⟨key, primary, cursor⟩ :
      ∃ key, found.table.primary? = some key ∧ found.cursor = some key := by
    rcases cursorColumn_eq_ok made.cursor with ⟨-, keyed⟩ | ⟨unpaged, -⟩
    · exact keyed
    · rw [paged] at unpaged
      cases unpaged
  have list : found.orders = [(key.name, found.selection.pageDirection)] := by
    rw [Plan.orders, cursor, effectiveOrders_key]
  have base : (found.node ctx).base.orderBy =
      baseOrders found.distinctOn [(key.name, found.selection.pageDirection)] := by
    rw [← list]
    rfl
  have restricted := made.restrictions
  rw [cursor] at restricted
  have own : ctx.isAbsorbed found.selection = false := by
    unfold hasCursor at paged
    simpa using (Bool.and_eq_true_iff.mp paged).2
  refine ⟨key, primary, ⟨?_, list, ?_, ?_⟩, ?_⟩
  · change found.cursor.map Column.name = _
    rw [cursor]
    rfl
  · rw [base, baseOrders_key]
    rfl
  · exact restrictions_past_cursor restricted own
  · rw [base, baseOrders_key_alone_iff, distinctColumns_alone_iff made.distinctOn]

end Context

end Query

/-- In every statement, the list of a rendered selection with cursor paging is ordered by the
primary key of its table alone, up for the pages forward and down for the pages backward, and a
given cursor is compared with that key in the same direction. Its row source is ordered by the key
alone exactly if it tells distinct rows apart by no column, or by the key. -/
theorem cursor_page_order_iff {c : Compiler} {r : Request} {given : Variables}
    {statement : Statement} (compiled : c.compile r given = .ok statement) :
    ∃ events, (c.queryContext r r.absorbedRoot).Reads (c.bindings given) statement events ∧
      ∀ (n : Query.Node) (s : Selection), .enter n ∈ events → r.selections[n.id]? = some s →
        s.paging.kind ≠ .offset → r.absorbedRoot ≠ some n.id →
        (∃ before after,
          statement.sql = before ++ Template.fill (c.bindings given) n.base.sql ++ after) ∧
        ∃ t key, c.schema.table s.table = .ok t ∧ t.primary? = some key ∧ n.base.table = t.name ∧
          n.PagedBy s t key ∧
          (n.base.orderBy = [(key.name, s.pageDirection)] ↔
            s.distinctOn = [] ∨ ∃ name column, s.distinctOn = [name] ∧
              t.column? name = some column ∧ column.name = key.name) := by
  obtain ⟨events, reads⟩ := Compiler.compile_reads_root compiled
  refine ⟨events, reads, ?_⟩
  intro n s begun known cursor kept
  obtain ⟨found, made, node⟩ := reads.found begun
  have own : found.selection = s :=
    Option.some.inj ((Query.Context.selection_eq_ok.mp made.selection).symm.trans known)
  subst own
  have paged : (c.queryContext r r.absorbedRoot).hasCursor found.selection = true := by
    have placed : found.selection.id = n.id := reads.placed n.id _ known
    have other : ¬ (c.queryContext r r.absorbedRoot).absorbed = some n.id := kept
    simp [Query.Context.hasCursor, Query.Context.isAbsorbed, Paging.isCursor, cursor, placed, other]
  obtain ⟨key, primary, along, alone⟩ := Query.Context.node_pagedBy made paged
  rw [← node] at along alone
  refine ⟨reads.base_text begun, found.table, key, made.table, primary, ?_, along, alone⟩
  rw [node]
  rfl

def earlierQuizzes : Selection :=
  { Selection.ofTable 1 "quizzes" with
    parent := some 0, fields := [.ofName "author_id"], orderBy := [⟨"author_id", .desc⟩]
    distinctOn := ["ID"], paging := { kind := .backward, cursor := some "5" } }

def quizzesBefore : Request := .query [humansAlone, earlierQuizzes]

theorem quizzesBefore_paged : ∃ s statement events n,
    Schema.ofCatalog quizCatalog {} = .ok s ∧
    Compiler.compile ⟨s, {}⟩ quizzesBefore {} = .ok statement ∧
    (Compiler.queryContext ⟨s, {}⟩ quizzesBefore none).Reads (Compiler.bindings ⟨s, {}⟩ {})
      statement events ∧
    .enter n ∈ events ∧ n.id = 1 ∧ n.base.orderBy = [("id", .desc)] ∧
    ((n.base.restrictions.filter Query.Restriction.isCursor).map Query.Restriction.sql).map
      (Template.fill {}) = ["((\"quizzes\".\"id\") < '5' :: bigint)"] := by
  have facts : (do
      let s ← Schema.ofCatalog quizCatalog {}
      let _ ← Compiler.compile ⟨s, {}⟩ quizzesBefore {}
      let t ← s.table "quizzes"
      return (t.name, t.primary?.map fun key => (key.name, key.sqlType),
        (t.column? "ID").map Column.name,
        (Compiler.queryContext ⟨s, {}⟩ quizzesBefore none).isJoined humansAlone earlierQuizzes)) =
      (.ok ("quizzes", some ("id", "bigint"), some "id", true) : Except Error _) := by
    decide +kernel
  simp only [Outcome.bind_eq_ok, Outcome.pure_eq_ok, Prod.mk.injEq] at facts
  obtain ⟨s, built, statement, compiled, t, table, named, keyed, spelled, joined⟩ := facts
  obtain ⟨events, reads, each⟩ := cursor_page_order_iff compiled
  have above : (Compiler.queryContext ⟨s, {}⟩ quizzesBefore none).Reached humansAlone.id :=
    .root List.mem_cons_self
  have reached : (Compiler.queryContext ⟨s, {}⟩ quizzesBefore none).Reached earlierQuizzes.id :=
    .child above rfl List.mem_cons_self rfl joined
  obtain ⟨n, begun, own⟩ :=
    (Query.Context.rendered_iff_reached reads.placed reads.walked 1).mpr reached
  have inside := Query.mem_enteredNodes.mp begun
  obtain ⟨-, t', key, table', primary, -, paged, alone⟩ := each n earlierQuizzes inside
    (by rw [own]; rfl) (by decide) (Option.some_ne_none n.id).symm
  cases Except.ok.inj (table.symm.trans table')
  rw [primary] at keyed
  obtain ⟨column, found, same⟩ := Option.map_eq_some_iff.mp spelled
  obtain ⟨key_name, key_type⟩ := Prod.mk.inj (Option.some.inj keyed)
  refine ⟨s, statement, events, n, built, compiled, reads, inside, own, ?_, ?_⟩
  · rw [alone.mpr (Or.inr ⟨"ID", column, rfl, found, same.trans key_name.symm⟩), key_name]
    rfl
  · rw [paged.compared, named, key_name, key_type]
    decide +kernel

def valveCatalog : Catalog where
  tables := [{ name := "valves" }]
  columns := [valveTable.columns]

def valvesByMark : Request :=
  .query [{ Selection.ofTable 0 "valves" with
    fields := [.ofName "mark"], distinctOn := ["mark"], paging := { kind := .forward } }]

theorem valvesByMark_not_by_key : ∃ s statement events n t key,
    Schema.ofCatalog valveCatalog {} = .ok s ∧
    Compiler.compile ⟨s, {}⟩ valvesByMark {} = .ok statement ∧
    (Compiler.queryContext ⟨s, {}⟩ valvesByMark none).Reads (Compiler.bindings ⟨s, {}⟩ {})
      statement events ∧
    .enter n ∈ events ∧ s.table "valves" = .ok t ∧ t.primary? = some key ∧
    n.base.orderBy = [("mark", .asc), (key.name, .asc)] := by
  have facts : (do
      let s ← Schema.ofCatalog valveCatalog {}
      let _ ← Compiler.compile ⟨s, {}⟩ valvesByMark {}
      let n ← (Compiler.queryContext ⟨s, {}⟩ valvesByMark none).node 0
      let t ← s.table "valves"
      return (n.base.orderBy, t.primary?.map Column.name)) =
      (.ok ([("mark", .asc), ("id", .asc)], some "id") : Except Error _) := by
    decide +kernel
  simp only [Outcome.bind_eq_ok, Outcome.pure_eq_ok, Prod.mk.injEq] at facts
  obtain ⟨s, built, statement, compiled, n, worked, t, table, ordered, keyed⟩ := facts
  obtain ⟨key, primary, key_name⟩ := Option.map_eq_some_iff.mp keyed
  obtain ⟨events, reads⟩ := Compiler.compile_reads_root compiled
  obtain ⟨m, begun, -, found⟩ := reads.entered_root List.mem_cons_self
  cases Except.ok.inj (worked.symm.trans found)
  refine ⟨s, statement, events, n, t, key, built, compiled, reads, begun, table, primary, ?_⟩
  rw [ordered, key_name]

end Lateral
