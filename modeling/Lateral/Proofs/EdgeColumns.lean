import Lateral.Proofs.ColumnPositions
import Lateral.Proofs.RelationshipGraph
import Mathlib.Data.List.Nodup

/-!
The columns that relationships name. The columns that keys point to are looked up among the
registered ones. Those that hold the keys are not: of several tables with one key only the first is
registered, yet the keys of all are followed, under the name of the first. So a relationship names a
registered column exactly when the first table has a column of the same name too.
-/

namespace Lateral

namespace Schema

def HasColumn (s : Schema) (key table column : String) : Prop :=
  ∃ t, s.tables.get? key = some t ∧ t.name = table ∧ ∃ c ∈ t.columns, c.name = column

def Holds (s : Schema) (k : ForeignKey) : Prop :=
  s.HasColumn k.tableKey k.column.table k.column.column

/-- The key is one that the edge between child and parent is read off. -/
inductive Decides (s : Schema) (catalog : Catalog) (c p : String) : ForeignKey → Prop where
  | link {t i : ℕ} {k : ForeignKey} (first : IsLeast (s.linkPlaces catalog c p) (toLex (t, i)))
      (key : s.keyAt? catalog t i = some k) : Decides s catalog c p k
  | left {t i j : ℕ} {l : ForeignKey} (unlinked : s.linkPlaces catalog c p = ∅)
      (first : IsLeast (s.crossPlaces catalog c p) (toLex (t, toLex (i, j))))
      (key : s.keyAt? catalog t i = some l) : Decides s catalog c p l
  | right {t i j : ℕ} {r : ForeignKey} (unlinked : s.linkPlaces catalog c p = ∅)
      (first : IsLeast (s.crossPlaces catalog c p) (toLex (t, toLex (i, j))))
      (key : s.keyAt? catalog t j = some r) : Decides s catalog c p r

end Schema

/-- Both sides of the edge, and its junction, are registered columns. -/
structure Edge.NamesColumns (e : Edge) (s : Schema) (c p : String) : Prop where
  left : s.HasColumn c e.left.table e.left.column
  right : s.HasColumn p e.right.table e.right.column
  junction : ∀ j, e.kind = .through j →
    ∃ key, s.HasColumn key j.table j.leftColumn ∧ s.HasColumn key j.table j.rightColumn

namespace Schema

section Decided

variable {s : Schema} {catalog : Catalog} {c p : String} {k : ForeignKey}

theorem Decides.eq_link {t i : ℕ} {k' : ForeignKey} (decides : s.Decides catalog c p k)
    (first : IsLeast (s.linkPlaces catalog c p) (toLex (t, i)))
    (key : s.keyAt? catalog t i = some k') : k = k' := by
  cases decides with
  | link first' key' =>
    cases toLex_inj.mp (first.unique first')
    exact Option.some.inj (key'.symm.trans key)
  | left unlinked | right unlinked =>
    have place := first.1
    rw [unlinked] at place
    exact place.elim

theorem Decides.eq_crossing {t i j : ℕ} {l r : ForeignKey} (decides : s.Decides catalog c p k)
    (unlinked : s.linkPlaces catalog c p = ∅)
    (first : IsLeast (s.crossPlaces catalog c p) (toLex (t, toLex (i, j))))
    (left : s.keyAt? catalog t i = some l) (right : s.keyAt? catalog t j = some r) :
    k = l ∨ k = r := by
  cases decides with
  | link first' =>
    have place := first'.1
    rw [unlinked] at place
    exact place.elim
  | left _ first' key =>
    cases toLex_inj.mp (first.unique first')
    exact .inl (Option.some.inj (key.symm.trans left))
  | right _ first' key =>
    cases toLex_inj.mp (first.unique first')
    exact .inr (Option.some.inj (key.symm.trans right))

end Decided

section Built

variable {s : Schema} {catalog : Catalog} {aliases : Dict String (List String)}
  {inflector : Inflector}

theorem ofCatalog_table (built : ofCatalog catalog aliases inflector = .ok s) (key : String) :
    s.tables.get? key = (catalog.described.find? fun d => inflector.canonical d.1.name = key).map
      fun d => Table.ofCatalog inflector d.1 d.2 := by
  obtain ⟨links, -, rfl⟩ := ofCatalog_made built
  rw [(addForeignKeys_tables _ links).tables, registered_table]

theorem stored_key (built : ofCatalog catalog aliases inflector = .ok s) {key : String} {t : Table}
    (stored : s.tables.get? key = some t) : t.key = key ∧ inflector.canonical t.name = key := by
  rw [ofCatalog_table built] at stored
  obtain ⟨d, first, rfl⟩ := Option.map_eq_some_iff.mp stored
  have named := List.find?_some first
  rw [decide_eq_true_eq] at named
  simp only [Table.ofCatalog_key, Table.ofCatalog_name, named, and_self]

theorem table?_stored (built : ofCatalog catalog aliases inflector = .ok s) {name : String}
    {t : Table} (found : s.table? name = some t) : s.tables.get? t.key = some t := by
  obtain ⟨key, -, stored⟩ := Option.bind_eq_some_iff.mp found
  rw [(stored_key built stored).1]
  exact stored

theorem table?_of_stored (built : ofCatalog catalog aliases inflector = .ok s) {t : Table}
    (stored : s.tables.get? t.key = some t) : s.table? t.name = some t := by
  have named := (stored_key built stored).2
  have resolved : s.resolve? t.name = some t.key := by
    simp only [resolve?, ofCatalog_canonical built, Dict.contains, named, stored,
      Option.isSome_some, if_true]
  rw [table?, resolved, Option.bind_some, stored]

theorem edgeKey_of_found (built : ofCatalog catalog aliases inflector = .ok s) {name : String}
    {t : Table} (found : s.table? name = some t) : s.edgeKey name = t.key := by
  obtain ⟨key, resolved, stored⟩ := Option.bind_eq_some_iff.mp found
  rw [edgeKey, resolved, Option.getD_some, (stored_key built stored).1]

theorem edge_stored (built : ofCatalog catalog aliases inflector = .ok s) {name : String}
    {child parent : Table} {e : Edge} (found : s.table name = .ok child)
    (stored : s.tables.get? parent.key = some parent) (edge : s.edge name parent.name = .ok e) :
    s.edges.get? (child.key, parent.key) = some e := by
  have keyed : s.edge? name parent.name = s.edges.get? (child.key, parent.key) := by
    rw [edge?, edgeKey_of_found built (table_eq_ok.mp found),
      edgeKey_of_found built (table?_of_stored built stored)]
  rw [← keyed]
  exact edge_eq_ok.mp edge

theorem HasColumn.key_eq (built : ofCatalog catalog aliases inflector = .ok s)
    {key table column : String} (has : s.HasColumn key table column) :
    key = inflector.canonical table := by
  obtain ⟨t, stored, rfl, -⟩ := has
  exact (stored_key built stored).2.symm

theorem keyAt?_row {t i : ℕ} {k : ForeignKey} (key : s.keyAt? catalog t i = some k) :
    ∃ row, (catalog.tables.zip catalog.columns)[t]? = some row ∧
      ∃ column ∈ row.2, s.keyOf? row.1 column = some k := by
  rw [keyAt?_eq] at key
  obtain ⟨row, place, key⟩ := Option.bind_eq_some_iff.mp key
  obtain ⟨column, inside, key⟩ := Option.bind_eq_some_iff.mp key
  exact ⟨row, place, column, List.mem_of_getElem? inside, key⟩

theorem keyAt?_target (built : ofCatalog catalog aliases inflector = .ok s) {t i : ℕ}
    {k : ForeignKey} (key : s.keyAt? catalog t i = some k) :
    s.HasColumn k.targetKey k.target.table k.target.column := by
  obtain ⟨row, -, column, -, key⟩ := keyAt?_row key
  obtain ⟨_, target, targetColumn, -, pointed, numbered, rfl⟩ := keyOf?_found key
  obtain ⟨name, -, found⟩ := Option.bind_eq_some_iff.mp pointed
  have member := Table.at?_mem numbered
  exact ⟨target, table?_stored built found, rfl, targetColumn, member, rfl⟩

theorem keyAt?_holder (built : ofCatalog catalog aliases inflector = .ok s) {t i : ℕ}
    {k : ForeignKey} (key : s.keyAt? catalog t i = some k) :
    inflector.canonical k.column.table = k.tableKey := by
  obtain ⟨row, -, column, -, key⟩ := keyAt?_row key
  obtain ⟨holder, _, _, found, -, -, rfl⟩ := keyOf?_found key
  exact (stored_key built (table?_stored built found)).2

theorem keyAt?_same_table {t i j : ℕ} {l r : ForeignKey} (left : s.keyAt? catalog t i = some l)
    (right : s.keyAt? catalog t j = some r) : l.column.table = r.column.table := by
  obtain ⟨row, place, _, -, left⟩ := keyAt?_row left
  obtain ⟨row', place', _, -, right⟩ := keyAt?_row right
  cases place.symm.trans place'
  exact keyOf?_same_table left right

theorem defined_names_columns_iff (built : ofCatalog catalog aliases inflector = .ok s)
    {c p : String} {e : Edge} (defines : s.DefinesEdge catalog c p (some e)) :
    e.NamesColumns s c p ↔ ∀ k, s.Decides catalog c p k → s.Holds k := by
  cases defines with
  | held first key holder =>
    have target := (links_of_mem first.1 key).target_of_held holder
    constructor
    · intro names k decides
      rw [decides.eq_link first key, Holds, holder]
      exact names.left
    · intro held
      have own := held _ (.link first key)
      have pointed := keyAt?_target built key
      rw [Holds, holder] at own
      rw [target] at pointed
      exact ⟨own, pointed, nofun⟩
  | pointed apart first key holder =>
    have target := (links_of_mem first.1 key).target_of_pointed apart holder
    constructor
    · intro names k decides
      rw [decides.eq_link first key, Holds, holder]
      exact names.right
    · intro held
      have own := held _ (.link first key)
      have pointed := keyAt?_target built key
      rw [Holds, holder] at own
      rw [target] at pointed
      exact ⟨pointed, own, nofun⟩
  | @crossed t i j l r unlinked first left right =>
    have crosses := crosses_of_mem first.1 left right
    have table := keyAt?_same_table left right
    constructor
    · intro names k decides
      -- A name belongs to one key, so the junction is the table that the keys were read off.
      obtain ⟨key, child, parent⟩ := names.junction _ rfl
      have junction : key = l.tableKey :=
        (child.key_eq built).trans (keyAt?_holder built left)
      have junction' : l.tableKey = r.tableKey := by
        rw [← keyAt?_holder built left, ← keyAt?_holder built right, table]
      rcases decides.eq_crossing unlinked first left right with rfl | rfl
      · rw [Holds, ← junction]
        exact child
      · rw [Holds, ← junction', ← table, ← junction]
        exact parent
    · intro held
      have child := keyAt?_target built left
      have parent := keyAt?_target built right
      rw [crosses.1] at child
      rw [crosses.2.1] at parent
      have left_held := held l (.left unlinked first left)
      have right_held := held r (.right unlinked first right)
      refine ⟨child, parent, ?_⟩
      rintro j ⟨⟩
      refine ⟨l.tableKey, left_held, ?_⟩
      rw [← keyAt?_holder built left, table, keyAt?_holder built right]
      exact right_held

/-- Where no two tables share a key, each is registered with its own columns. -/
theorem table?_own (built : ofCatalog catalog aliases inflector = .ok s)
    (distinct : (catalog.described.map fun d => inflector.canonical d.1.name).Nodup)
    {d : CatalogTable × List Column} (member : d ∈ catalog.described) :
    s.table? d.1.name = some (Table.ofCatalog inflector d.1 d.2) := by
  have stored : s.tables.get? (inflector.canonical d.1.name) =
      some (Table.ofCatalog inflector d.1 d.2) := by
    rw [ofCatalog_table built]
    cases first : catalog.described.find? fun d' =>
        inflector.canonical d'.1.name = inflector.canonical d.1.name with
    | none =>
      have other := List.find?_eq_none.mp first d member
      simp at other
    | some d' =>
      have named := List.find?_some first
      rw [decide_eq_true_eq] at named
      rw [List.inj_on_of_nodup_map distinct (List.mem_of_find?_eq_some first) member named,
        Option.map_some]
  rw [← Table.ofCatalog_key inflector d.1 d.2] at stored
  have found := table?_of_stored built stored
  rwa [Table.ofCatalog_name] at found

theorem holds_of_distinct (built : ofCatalog catalog aliases inflector = .ok s)
    (distinct : (catalog.described.map fun d => inflector.canonical d.1.name).Nodup) {t i : ℕ}
    {k : ForeignKey} (key : s.keyAt? catalog t i = some k) : s.Holds k := by
  obtain ⟨row, place, column, inside, key⟩ := keyAt?_row key
  obtain ⟨holder, _, _, found, -, -, rfl⟩ := keyOf?_found key
  have own := table?_own built distinct
    (catalog.zip_subset_described (List.mem_of_getElem? place))
  have holder_eq := Option.some.inj (found.symm.trans own)
  refine ⟨holder, table?_stored built found, rfl, column, ?_, rfl⟩
  rwa [holder_eq, Table.ofCatalog_columns]

end Built

end Schema

/-- An edge names registered columns exactly when the columns of the keys it is read off are
registered, which they are wherever no two tables of the catalog share a key. -/
theorem edge_names_columns_iff {s : Schema} {catalog : Catalog}
    {aliases : Dict String (List String)} {inflector : Inflector}
    (built : Schema.ofCatalog catalog aliases inflector = .ok s) :
    (∀ c p e, s.edges.get? (c, p) = some e →
      (e.NamesColumns s c p ↔ ∀ k, s.Decides catalog c p k → s.Holds k)) ∧
    ((catalog.described.map fun d => inflector.canonical d.1.name).Nodup →
      ∀ c p e, s.edges.get? (c, p) = some e → e.NamesColumns s c p) := by
  have decided (c p : String) (e : Edge) (stored : s.edges.get? (c, p) = some e) :
      e.NamesColumns s c p ↔ ∀ k, s.Decides catalog c p k → s.Holds k := by
    have defines : s.DefinesEdge catalog c p _ := Schema.search_defines
    rw [← Schema.ofCatalog_edge built, stored] at defines
    exact Schema.defined_names_columns_iff built defines
  refine ⟨decided, ?_⟩
  intro distinct c p e stored
  refine (decided c p e stored).mpr ?_
  rintro k (⟨-, key⟩ | ⟨-, -, key⟩ | ⟨-, -, key⟩) <;>
    exact Schema.holds_of_distinct built distinct key

theorem quizCatalog_names_columns : ∃ s e, Schema.ofCatalog quizCatalog {} = .ok s ∧
    s.edges.get? ("volcano", "human") = some e ∧ e.NamesColumns s "volcano" "human" ∧
    ∀ k, s.Decides quizCatalog "volcano" "human" k → s.Holds k := by
  have found : ((Schema.ofCatalog quizCatalog {}).map fun s =>
      s.edges.get? ("volcano", "human")) = .ok (some
        ⟨.through ⟨"proofs", "volcano_id", "human_id"⟩, ⟨"volcanoes", "id", false⟩,
          ⟨"humans", "id", false⟩⟩) := by
    decide +kernel
  obtain ⟨s, built, stored⟩ := Outcome.map_eq_ok.mp found
  have distinct :
      (quizCatalog.described.map fun d => Inflector.english.canonical d.1.name).Nodup := by
    decide +kernel
  have both := edge_names_columns_iff built
  have names := both.2 distinct _ _ _ stored
  exact ⟨s, _, built, stored, names, (both.1 _ _ _ stored).mp names⟩

/-- A table and another whose name is its plural, with a key of its own. -/
def pluralCatalog : Catalog where
  tables := [{ name := "human" }, { name := "humans" }, { name := "quizzes" }]
  columns := [
    [{ id := 1, name := "id", sqlType := "bigint", primaryKey := true }],
    [{ id := 1, name := "id", sqlType := "bigint", primaryKey := true },
      { id := 2, name := "quiz_id", sqlType := "bigint", target := "quizzes", targetIds := [1] }],
    [{ id := 1, name := "id", sqlType := "bigint", primaryKey := true }]]

theorem pluralCatalog_misnames : ∃ s e, Schema.ofCatalog pluralCatalog {} = .ok s ∧
    s.edges.get? ("human", "quiz") = some e ∧ ¬ e.NamesColumns s "human" "quiz" := by
  have found : ((Schema.ofCatalog pluralCatalog {}).map fun s =>
      (s.edges.get? ("human", "quiz"), s.tables.get? "human")) = .ok
        (some ⟨.oneToMany, ⟨"human", "quiz_id", false⟩, ⟨"quizzes", "id", false⟩⟩,
          some <| .ofColumns "human" "human" .table
            [{ id := 1, name := "id", sqlType := "bigint", primaryKey := true }]) := by
    decide +kernel
  obtain ⟨s, built, found⟩ := Outcome.map_eq_ok.mp found
  obtain ⟨stored, table⟩ := Prod.mk.inj found
  refine ⟨s, _, built, stored, ?_⟩
  intro names
  obtain ⟨t, registered, -, column, member, named⟩ := names.left
  rw [table] at registered
  cases registered
  rw [List.mem_singleton.mp member] at named
  exact absurd named (by decide)

end Lateral
