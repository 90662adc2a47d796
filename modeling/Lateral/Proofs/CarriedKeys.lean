import Lateral.Proofs.Assignments
import Lateral.Proofs.CommandPhrases
import Lateral.Proofs.Commands
import Lateral.Proofs.WriteTargets

/-!
The keys that written rows carry. Sources are matched to columns by name and the first one counts,
so that one relationship could hide another. None does: two relationships of one table that share a
column are read off one foreign key, and lead to one table, while no table is written twice.
-/

namespace Lateral
open Mutation

namespace Schema

variable {s : Schema} {catalog : Catalog} {aliases : Dict String (List String)}
  {inflector : Inflector}

def HasKey (s : Schema) (catalog : Catalog) (table column target : String) : Prop :=
  ∃ (n i : ℕ) (k : ForeignKey), s.keyAt? catalog n i = some k ∧ k.tableKey = table ∧
    k.column.column = column ∧ k.targetKey = target

theorem keyOf?_tableKey (built : ofCatalog catalog aliases inflector = .ok s)
    (keys : (catalog.described.map fun d => inflector.canonical d.1.name).Nodup)
    {row : CatalogTable × List Column} (member : row ∈ catalog.described) {c : Column}
    {k : ForeignKey} (key : s.keyOf? row.1 c = some k) :
    k.tableKey = inflector.canonical row.1.name := by
  obtain ⟨holder, _, _, found, -, -, rfl⟩ := keyOf?_found key
  have own := Option.some.inj (found.symm.trans (table?_own built keys member))
  simp only [own, Table.ofCatalog_key]

theorem HasKey.target_unique (built : ofCatalog catalog aliases inflector = .ok s)
    (keys : (catalog.described.map fun d => inflector.canonical d.1.name).Nodup)
    (columns : ∀ row ∈ catalog.described, (row.2.map Column.name).Nodup)
    {table column target target' : String} (left : s.HasKey catalog table column target)
    (right : s.HasKey catalog table column target') : target = target' := by
  obtain ⟨n, i, k, key, holder, named, rfl⟩ := left
  obtain ⟨n', i', k', key', holder', named', rfl⟩ := right
  obtain ⟨row, place, c, inside, key⟩ := keyAt?_row key
  obtain ⟨row', place', c', inside', key'⟩ := keyAt?_row key'
  have member := catalog.zip_subset_described (List.mem_of_getElem? place)
  have member' := catalog.zip_subset_described (List.mem_of_getElem? place')
  have table : inflector.canonical row.1.name = inflector.canonical row'.1.name := by
    rw [← keyOf?_tableKey built keys member key, ← keyOf?_tableKey built keys member' key', holder,
      holder']
  have same_row := List.inj_on_of_nodup_map keys member member' table
  subst same_row
  have name : c.name = c'.name := by
    rw [← keyOf?_name key, ← keyOf?_name key', named, named']
  have same_column := List.inj_on_of_nodup_map (columns row member) inside inside' name
  subst same_column
  rw [Option.some.inj (key.symm.trans key')]

theorem hasKey_of_oneToMany (built : ofCatalog catalog aliases inflector = .ok s) {c p : String}
    {e : Edge} (stored : s.edges.get? (c, p) = some e) (kind : e.isOneToMany = true) :
    s.HasKey catalog c e.left.column p := by
  cases defines_of_stored built stored with
  | held first key holder =>
    exact ⟨_, _, _, key, holder, rfl, (links_of_mem first.1 key).target_of_held holder⟩
  | pointed | crossed => cases kind

theorem hasKey_of_oneToOne (built : ofCatalog catalog aliases inflector = .ok s) {c p : String}
    {e : Edge} (stored : s.edges.get? (c, p) = some e) (kind : e.isOneToOne = true) :
    s.HasKey catalog p e.right.column c := by
  cases defines_of_stored built stored with
  | pointed apart first key holder =>
    exact ⟨_, _, _, key, holder, rfl, (links_of_mem first.1 key).target_of_pointed apart holder⟩
  | held | crossed => cases kind

theorem HasKey.column_mem (built : ofCatalog catalog aliases inflector = .ok s)
    (keys : (catalog.described.map fun d => inflector.canonical d.1.name).Nodup) {t : Table}
    (stored : s.tables.get? t.key = some t) {column target : String}
    (holds : s.HasKey catalog t.key column target) : ∃ c ∈ t.columns, c.name = column := by
  obtain ⟨n, i, k, key, holder, rfl, -⟩ := holds
  obtain ⟨u, found, -, c, member, named⟩ := holds_of_distinct built keys key
  rw [holder, stored] at found
  cases found
  exact ⟨c, member, named⟩

end Schema

/-- The column is written, and from this source only. -/
def Writes (assignments : List Assignment) (column : String) (source : Source) : Prop :=
  (∃ a ∈ assignments, a.column.name = column) ∧
    ∀ a ∈ assignments, a.column.name = column → a.source = source

theorem writes_of_lookup {r : Rows} {root : Selection} {parent : Option Rows}
    {children : List Write} {column : String} {source : Source}
    (found : (r.related parent children).lookup column = some source)
    (there : ∃ c ∈ r.table.columns, c.name = column) :
    Writes (r.assignments root parent children) column source := by
  have given (c : Column) (named : c.name = column) :
      r.source? root parent children c = some source := by
    rw [← named] at found
    simp only [Rows.source?, found]
  obtain ⟨c, member, named⟩ := there
  constructor
  · exact ⟨⟨c, source⟩, mem_assignments.mpr ⟨member, given c named⟩, named⟩
  · intro a among same
    have own := (mem_assignments.mp among).2
    rw [given a.column same] at own
    exact (Option.some.inj own).symm

theorem given_edge {r : Rows} {w : Write} {column : String} {source : Source}
    (given : r.GivenBy w column source) :
    ∃ e, w.edge? = some e ∧ e.isOneToOne = true ∧ column = e.right.column := by
  cases given with
  | row edge single => exact ⟨_, edge, single, rfl⟩
  | connected single | disconnected single => exact ⟨_, rfl, single, rfl⟩

theorem given_unique {r : Rows} {w : Write} {column column' : String} {source source' : Source}
    (given : r.GivenBy w column source) (given' : r.GivenBy w column' source') :
    source = source' := by
  have same := (fromChild_eq_some.mpr given).symm.trans (fromChild_eq_some.mpr given')
  exact (Prod.mk.inj (Option.some.inj same)).2

section Carried

variable {s : Schema} {catalog : Catalog} {aliases : Dict String (List String)}
  {inflector : Inflector} {kind : RowKind} {t : Table} {value : Json} {chain : Chain} {r : Rows}
  {parent : Option Rows} {children : List Write}

theorem step_keys_apart (built : build s kind t value = .ok chain)
    (step : Step.rows r parent children ∈ chain.steps) :
    (∀ p, parent = some p → ∀ w ∈ children, p.table.key ≠ w.table.key) ∧
      (children.map fun w => w.table.key).Nodup := by
  have nodup := (build_keys built).sublist ((step_tables_sublist step).map Table.key)
  have below : (children.map Write.table).map Table.key = children.map fun w => w.table.key :=
    List.map_map
  rw [List.map_append, List.map_cons, below] at nodup
  obtain ⟨-, own, apart⟩ := List.nodup_append'.mp nodup
  refine ⟨?_, (List.nodup_cons.mp own).2⟩
  rintro p rfl w member same
  have above : p.table.key ∈ ((some p).toList.map Rows.table).map Table.key := by simp
  refine apart above (List.mem_cons_of_mem _ ?_)
  rw [same]
  exact List.mem_map.mpr ⟨w, member, rfl⟩

variable (schema : Schema.ofCatalog catalog aliases inflector = .ok s)
  (built : build s kind t value = .ok chain) (root : s.tables.get? t.key = some t)
  (step : Step.rows r parent children ∈ chain.steps)
include schema built root step

theorem fromParent_key {e : Edge} {p : Rows} (own : r.edge = some e) (above : parent = some p)
    (many : e.isOneToMany = true) :
    s.HasKey catalog r.table.key e.left.column p.table.key := by
  subst above
  rcases chain_step_stands step with same | stands
  · cases same
  · cases stands with
    | rows hangs =>
      obtain ⟨e', edge, stored⟩ := below_edge_stored schema built root hangs
      have same : e = e' := Option.some.inj (own.symm.trans edge)
      subst same
      exact Schema.hasKey_of_oneToMany schema stored many

theorem given_key {w : Write} (member : w ∈ children) {column : String} {source : Source}
    (given : r.GivenBy w column source) :
    s.HasKey catalog r.table.key column w.table.key := by
  obtain ⟨e, edge, stored⟩ := below_edge_stored schema built root (step_child_below step member)
  obtain ⟨e', own, single, rfl⟩ := given_edge given
  have same : e' = e := Option.some.inj (own.symm.trans edge)
  subst same
  exact Schema.hasKey_of_oneToOne schema stored single

theorem related_key {column : String} {source : Source}
    (member : (column, source) ∈ r.related parent children) :
    ∃ target, s.HasKey catalog r.table.key column target := by
  rcases mem_related.mp member with above | ⟨w, child, given⟩
  · obtain ⟨e, p, own, same, -, many, rfl, -⟩ := mem_fromParent.mp above
    exact ⟨_, fromParent_key schema built root step own same many⟩
  · exact ⟨_, given_key schema built root step child given⟩

variable (keys : (catalog.described.map fun d => inflector.canonical d.1.name).Nodup)
  (columns : ∀ row ∈ catalog.described, (row.2.map Column.name).Nodup)
include keys columns

theorem related_unique {column : String} {source other : Source}
    (first : (column, source) ∈ r.related parent children)
    (second : (column, other) ∈ r.related parent children) : other = source := by
  -- equal columns mean equal targets, and no two of the tables involved have the same key
  obtain ⟨above_apart, below_apart⟩ := step_keys_apart built step
  have parent_child {held given : Source} {w : Write} (above : (column, held) ∈ r.fromParent parent)
      (member : w ∈ children) (below : r.GivenBy w column given) : False := by
    obtain ⟨e, p, own, same, -, many, rfl, -⟩ := mem_fromParent.mp above
    have up := fromParent_key schema built root step own same many
    have down := given_key schema built root step member below
    exact above_apart p same w member (up.target_unique schema keys columns down)
  rcases mem_related.mp first with above | ⟨w, member, given⟩
  · rcases mem_related.mp second with above' | ⟨w', member', given'⟩
    · obtain ⟨e, p, own, same, -, -, -, rfl⟩ := mem_fromParent.mp above
      obtain ⟨e', p', own', same', -, -, -, rfl⟩ := mem_fromParent.mp above'
      cases Option.some.inj (own.symm.trans own')
      cases Option.some.inj (same.symm.trans same')
      rfl
    · exact (parent_child above member' given').elim
  · rcases mem_related.mp second with above' | ⟨w', member', given'⟩
    · exact (parent_child above' member given).elim
    · have left := given_key schema built root step member given
      have right := given_key schema built root step member' given'
      have target := left.target_unique schema keys columns right
      cases List.inj_on_of_nodup_map below_apart member member' target
      exact given_unique given' given

theorem related_written (selection : Selection) {column : String} {source : Source}
    (member : (column, source) ∈ r.related parent children) :
    Writes (r.assignments selection parent children) column source := by
  have only (other : Source) (again : (column, other) ∈ r.related parent children) :
      other = source := related_unique schema built root step keys columns member again
  obtain ⟨target, holds⟩ := related_key schema built root step member
  have stored := tables_stored schema built root r.table (step_table_mem step)
  exact writes_of_lookup (Dict.lookup_of_unique member only) (holds.column_mem schema keys stored)

end Carried

theorem step_assigns {ctx : Context} {r : Rows} {parent : Option Rows} {children : List Write}
    {ctes : List Cte} (made : StepMade ctx (.rows r parent children) ctes)
    (some_column : r.assignments ctx.root parent children ≠ []) :
    ∃ cte ∈ ctes, cte.name = r.table.name ∧
      cte.command.Assigns (r.assignments ctx.root parent children) := by
  cases made with
  | insert | insertAcross => exact ⟨_, List.mem_cons_self, rfl, assigns_insert ..⟩
  | update => exact ⟨_, List.mem_cons_self, rfl, assigns_update ..⟩
  | read _ empty => exact absurd empty some_column

/-- No relationship is lost. In a schema whose tables and columns are told apart by their names,
rows are written with the key of every row that they are related to: an inserted row with that of
the rows above it, and rows with those of a row inserted below them and of the first row that is
connected, which is missing where rows are only disconnected. So they stand in the text: columns and
values are listed in the same order. -/
theorem written_rows_carry_keys {s : Schema} {catalog : Catalog}
    {aliases : Dict String (List String)} {inflector : Inflector}
    (schema : Schema.ofCatalog catalog aliases inflector = .ok s)
    (keys : (catalog.described.map fun d => inflector.canonical d.1.name).Nodup)
    (columns : ∀ row ∈ catalog.described, (row.2.map Column.name).Nodup) {name : String}
    {t : Table} (found : s.table name = .ok t) {kind : RowKind} {value : Json} {chain : Chain}
    (built : build s kind t value = .ok chain) {r : Rows} {parent : Option Rows}
    {children : List Write} (step : Step.rows r parent children ∈ chain.steps)
    (selection : Selection) :
    (∀ p e, parent = some p → r.edge = some e → r.kind = .insert → e.kind = .oneToMany →
      Writes (r.assignments selection parent children) e.left.column
        (.related ⟨p.table.name, e.right.column⟩)) ∧
    (∀ c below e, .rows c below ∈ children → c.edge = some e → c.kind = .insert →
      r.kind.writesRow = true → e.kind = .oneToOne →
      Writes (r.assignments selection parent children) e.right.column
        (.related ⟨c.table.name, e.left.column⟩)) ∧
    (∀ g, .links g ∈ children → g.edge.kind = .oneToOne →
      (∀ l, g.links.find? (fun l => l.kind = .connect) = some l →
        Writes (r.assignments selection parent children) g.edge.right.column
          (.related ⟨g.cteName l, g.edge.left.column⟩)) ∧
      ((∀ l ∈ g.links, l.kind = .disconnect) →
        Writes (r.assignments selection parent children) g.edge.right.column .null)) ∧
    ∀ (ctx : Context) (ctes : List Cte), ctx.root = selection →
      ctx.step (.rows r parent children) = .ok ctes →
      (∀ b, ctx.writeStep b (.rows r parent children) =
        .ok (ctes.map fun cte => cte.phrase.text b)) ∧
      (r.assignments selection parent children ≠ [] → ∃ cte ∈ ctes, cte.name = r.table.name ∧
        cte.command.Assigns (r.assignments selection parent children)) := by
  have root := Schema.table?_stored schema (Schema.table_eq_ok.mp found)
  have written {column : String} {source : Source}
      (member : (column, source) ∈ r.related parent children) :
      Writes (r.assignments selection parent children) column source :=
    related_written schema built root step keys columns selection member
  have below {w : Write} {column : String} {source : Source} (member : w ∈ children)
      (given : r.GivenBy w column source) :
      Writes (r.assignments selection parent children) column source :=
    written (mem_related.mpr (Or.inr ⟨w, member, given⟩))
  refine ⟨?_, ?_, ?_, ?_⟩
  · intro p e above edge inserts many
    have writes : r.kind.writesRow = true := by rw [inserts]; rfl
    have held := mem_fromParent.mpr ⟨e, p, edge, above, writes, decide_eq_true many, rfl, rfl⟩
    exact written (mem_related.mpr (Or.inl held))
  · intro c rest e member edge inserts writes single
    exact below member (.row edge (decide_eq_true single) inserts writes)
  · intro g member single
    constructor
    · intro l first
      exact below member (.connected (decide_eq_true single) first)
    · intro disconnects
      have none : g.links.find? (fun l => l.kind = .connect) = none := by
        refine List.find?_eq_none.mpr fun l among => ?_
        simp [disconnects l among]
      exact below member (.disconnected (decide_eq_true single) none)
  · rintro ctx ctes rfl run
    exact ⟨fun b => Context.writeStep_phrases run, step_assigns (step_made run)⟩

def provedQuiz : Json := .obj [
  ("id", .int 3),
  ("humans", .obj [("connect", .obj [("id", .int 1)])]),
  ("proofs", .obj [("volcanoes", .obj [("id", .int 2)])])]

def Step.hangs? : Step → Option (RowKind × Option Edge × String)
  | .rows r (some p) _ => some (r.kind, r.edge, p.table.name)
  | _ => none

theorem provedQuiz_carries_key : ∃ s t chain r p children ctes,
    Schema.ofCatalog quizCatalog {} = .ok s ∧ s.table "quizzes" = .ok t ∧
    build s .insert t provedQuiz = .ok chain ∧ Step.rows r (some p) children ∈ chain.steps ∧
    (∀ selection, Writes (r.assignments selection (some p) children) "quiz_id"
      (.related ⟨"quizzes", "id"⟩)) ∧
    Context.step ⟨s, {}, t⟩ (.rows r (some p) children) = .ok ctes ∧
    ∃ cte ∈ ctes, cte.name = r.table.name ∧
      cte.command.Assigns (r.assignments {} (some p) children) := by
  have listed : (do
      let s ← Schema.ofCatalog quizCatalog {}
      let t ← s.table "quizzes"
      let chain ← build s .insert t provedQuiz
      let _ ← chain.steps.mapM (Context.step ⟨s, {}, t⟩)
      return chain.steps.filterMap Step.hangs?) =
      (.ok [(.insert, some ⟨.oneToOne, ⟨"volcanoes", "id", false⟩, ⟨"proofs", "volcano_id", false⟩⟩,
          "proofs"),
        (.insert, some ⟨.oneToMany, ⟨"proofs", "quiz_id", false⟩, ⟨"quizzes", "id", false⟩⟩,
          "quizzes")] : Except Error _) := by
    decide +kernel
  simp only [Outcome.bind_eq_ok, Outcome.pure_eq_ok] at listed
  obtain ⟨s, schema, t, found, chain, built, commands, commanded, listed⟩ := listed
  have member : (RowKind.insert, some (⟨.oneToMany, ⟨"proofs", "quiz_id", false⟩,
      ⟨"quizzes", "id", false⟩⟩ : Edge), "quizzes") ∈ chain.steps.filterMap Step.hangs? := by
    rw [listed]
    exact List.mem_cons_of_mem _ (List.mem_singleton_self _)
  obtain ⟨step, among, hangs⟩ := List.mem_filterMap.mp member
  obtain ⟨ctes, -, run⟩ := Outcome.mapM_mem commanded among
  cases step with
  | link | union => cases hangs
  | rows r parent children =>
    cases parent with
    | none => cases hangs
    | some p =>
      simp only [Step.hangs?, Option.some.injEq, Prod.mk.injEq] at hangs
      obtain ⟨inserts, edge, above⟩ := hangs
      have carried (selection : Selection) := written_rows_carry_keys schema (by decide +kernel)
        (by decide) found built among selection
      have writes (selection : Selection) :
          Writes (r.assignments selection (some p) children) "quiz_id"
            (.related ⟨"quizzes", "id"⟩) := by
        rw [← above]
        exact (carried selection).1 p _ rfl edge inserts rfl
      obtain ⟨⟨a, assigned, -⟩, -⟩ := writes {}
      exact ⟨s, t, chain, r, p, children, ctes, schema, found, built, among, writes, run,
        ((carried {}).2.2.2 _ ctes rfl run).2 (List.ne_nil_of_mem assigned)⟩

end Lateral
