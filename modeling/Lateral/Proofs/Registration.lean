import Lateral.Proofs.Outcome
import Lateral.Schema.ForeignKeys

/-!
Schemas built from a catalog, in two passes. The first registers the tables, of several with one key
the first alone. The second adds relationships, and leaves tables and names as they are.
-/

namespace Lateral

theorem Catalog.zip_subset_described (catalog : Catalog) :
    catalog.tables.zip catalog.columns ⊆ catalog.described := by
  have from_any (tables : List CatalogTable) (columns : List (List Column)) :
      tables.zip columns ⊆ describedFrom tables columns := by
    induction tables generalizing columns with
    | nil => exact List.nil_subset _
    | cons t rest ih =>
      cases columns with
      | nil => exact List.nil_subset _
      | cons first others => exact List.cons_subset_cons _ (ih others)
  exact from_any ..

namespace Schema
open Outcome

def registered (catalog : Catalog) (aliases : Dict String (List String)) (inflector : Inflector) :
    Schema :=
  catalog.described.foldl (fun (s : Schema) (table, columns) =>
    s.addTable table columns ((aliases.get? table.name).getD []))
    { inflector, version := catalog.version }

theorem ofCatalog_made {catalog : Catalog} {aliases : Dict String (List String)}
    {inflector : Inflector} {s : Schema} (built : ofCatalog catalog aliases inflector = .ok s) :
    ∃ links, (registered catalog aliases inflector).foreignKeys catalog = .ok links ∧
      s = (registered catalog aliases inflector).addForeignKeys links := by
  have passes : ((registered catalog aliases inflector).foreignKeys catalog >>= fun links =>
      pure ((registered catalog aliases inflector).addForeignKeys links)) = .ok s := built
  obtain ⟨links, followed, added⟩ := bind_eq_ok.mp passes
  exact ⟨links, followed, (pure_eq_ok.mp added).symm⟩

section Tables

variable (s : Schema)

theorem addTable_table (table : CatalogTable) (columns : List Column) (names : List String)
    (key : String) : (s.addTable table columns names).tables.get? key =
      (s.tables.get? key).or
        (if s.canonical table.name = key then some (Table.ofCatalog s.inflector table columns)
          else none) := by
  have own : (Table.ofCatalog s.inflector table columns).key = s.canonical table.name := rfl
  simp only [addTable, Dict.contains, own]
  cases taken : s.tables.get? (s.canonical table.name) with
  | some t =>
    by_cases same : s.canonical table.name = key
    · subst same
      simp [taken]
    · simp [same]
  | none =>
    by_cases same : s.canonical table.name = key
    · subst same
      simp [Dict.get?_insert, taken]
    · have apart : key ≠ s.canonical table.name := fun h => same h.symm
      simp [Dict.get?_insert, apart, same]

theorem addTable_inflector (table : CatalogTable) (columns : List Column) (names : List String) :
    (s.addTable table columns names).inflector = s.inflector := by
  unfold addTable
  dsimp only
  split <;> rfl

theorem addTable_edges (table : CatalogTable) (columns : List Column) (names : List String) :
    (s.addTable table columns names).edges = s.edges := by
  unfold addTable
  dsimp only
  split <;> rfl

end Tables

section Registered

variable {catalog : Catalog} {aliases : Dict String (List String)} {inflector : Inflector}

/-- Under a key stands the first table of the catalog whose name comes down to it. -/
theorem registered_table (key : String) :
    (registered catalog aliases inflector).tables.get? key =
      (catalog.described.find? fun d => inflector.canonical d.1.name = key).map fun d =>
        Table.ofCatalog inflector d.1 d.2 := by
  have from_any (described : List (CatalogTable × List Column)) (s : Schema)
      (own : s.inflector = inflector) :
      (described.foldl (fun (s : Schema) (table, columns) =>
        s.addTable table columns ((aliases.get? table.name).getD [])) s).tables.get? key =
      (s.tables.get? key).or ((described.find? fun d =>
        inflector.canonical d.1.name = key).map fun d => Table.ofCatalog inflector d.1 d.2) := by
    induction described generalizing s with
    | nil => simp
    | cons d rest ih =>
      rw [List.foldl_cons, ih _ ((addTable_inflector ..).trans own), addTable_table,
        Option.or_assoc, List.find?_cons, canonical, own]
      by_cases same : inflector.canonical d.1.name = key
      · simp [same]
      · simp [same]
  exact from_any catalog.described { inflector, version := catalog.version } rfl

theorem registered_induction {P : Schema → Prop}
    (start : P { inflector, version := catalog.version })
    (step : ∀ s table columns names, P s → P (s.addTable table columns names)) :
    P (registered catalog aliases inflector) := by
  have from_any (described : List (CatalogTable × List Column)) (s : Schema) (holds : P s) :
      P (described.foldl (fun (s : Schema) (table, columns) =>
        s.addTable table columns ((aliases.get? table.name).getD [])) s) := by
    induction described generalizing s with
    | nil => exact holds
    | cons d rest ih => exact ih _ (step _ _ _ _ holds)
  exact from_any _ _ start

theorem registered_inflector : (registered catalog aliases inflector).inflector = inflector := by
  apply registered_induction (P := fun s => s.inflector = inflector)
  · rfl
  · intro s table columns names holds
    rw [addTable_inflector, holds]

theorem registered_edge (key : String × String) :
    (registered catalog aliases inflector).edges.get? key = none := by
  have none_yet : (registered catalog aliases inflector).edges = {} := by
    apply registered_induction (P := fun s => s.edges = {})
    · rfl
    · intro s table columns names holds
      rw [addTable_edges, holds]
  rw [none_yet]
  rfl

end Registered

section Lookup

variable {s : Schema}

theorem table_eq_ok {name : String} {t : Table} :
    s.table name = .ok t ↔ s.table? name = some t := by
  unfold table
  cases s.table? name with
  | none => simp
  | some u => simp

theorem edge_eq_ok {child parent : String} {e : Edge} :
    s.edge child parent = .ok e ↔ s.edge? child parent = some e := by
  unfold edge
  cases s.edge? child parent with
  | none => simp
  | some e => simp

structure SameTables (s u : Schema) : Prop where
  inflector : s.inflector = u.inflector
  tables : s.tables = u.tables
  aliases : s.aliases = u.aliases

theorem SameTables.refl (s : Schema) : SameTables s s := ⟨rfl, rfl, rfl⟩

theorem SameTables.trans {s u v : Schema} (first : SameTables s u) (next : SameTables u v) :
    SameTables s v :=
  ⟨first.inflector.trans next.inflector, first.tables.trans next.tables,
    first.aliases.trans next.aliases⟩

theorem SameTables.table? {s u : Schema} (same : SameTables s u) (name : String) :
    s.table? name = u.table? name := by
  unfold Schema.table? resolve? canonical
  rw [same.inflector, same.tables, same.aliases]

theorem SameTables.edgeKey {s u : Schema} (same : SameTables s u) (name : String) :
    s.edgeKey name = u.edgeKey name := by
  unfold Schema.edgeKey resolve? canonical
  rw [same.inflector, same.tables, same.aliases]

theorem SameTables.foldl {α : Type} {step : Schema → α → Schema}
    (each : ∀ s a, SameTables (step s a) s) (items : List α) (s : Schema) :
    SameTables (items.foldl step s) s := by
  induction items generalizing s with
  | nil => exact .refl s
  | cons a rest ih => exact (ih (step s a)).trans (each s a)

theorem addDirect_tables (s : Schema) (k : ForeignKey) : SameTables (s.addDirect k) s := by
  unfold addDirect
  dsimp only
  split <;> exact ⟨rfl, rfl, rfl⟩

theorem addForeignKeys_tables (s : Schema) (links : List (String × List ForeignKey)) :
    SameTables (s.addForeignKeys links) s := by
  have directs := SameTables.foldl addDirect_tables (links.flatMap Prod.snd) s
  have throughs (u : Schema) (pair : ForeignKey × ForeignKey) : SameTables (u.addThrough pair) u :=
    ⟨rfl, rfl, rfl⟩
  exact (SameTables.foldl throughs _ _).trans directs

theorem ofCatalog_canonical {catalog : Catalog} {aliases : Dict String (List String)}
    {inflector : Inflector} (built : ofCatalog catalog aliases inflector = .ok s) (name : String) :
    s.canonical name = inflector.canonical name := by
  obtain ⟨links, -, rfl⟩ := ofCatalog_made built
  rw [canonical, (addForeignKeys_tables _ links).inflector, registered_inflector]

end Lookup

end Schema

end Lateral
