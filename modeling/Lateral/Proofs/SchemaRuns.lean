import Lateral.Proofs.Registration

/-!
Schemas as they grow. A schema starts empty or from a catalog, and is then changed call by call; a
call that is refused leaves it as it was. Whatever the calls, a table stands under the canonical
form of its name, and a further name leads to a table.
-/

namespace Lateral

namespace Schema
open Outcome

inductive Change where
  | register (table : CatalogTable) (columns : List Column) (names : List String)
  | relate (catalog : Catalog)
  | remote (child parent localColumn remoteField : String)
  | edge (child parent : String) (e : Edge)

def Change.apply (s : Schema) : Change → Except Error Schema
  | .register table columns names => .ok (s.addTable table columns names)
  | .relate catalog => s.buildRelationships catalog
  | .remote child parent localColumn remoteField => s.addRemote child parent localColumn remoteField
  | .edge child parent e => .ok (s.setEdge child parent e)

/-- A call that may be refused and that changes the schema in place: what it changed before a
refusal stays changed. -/
abbrev Update := ExceptT Error (StateM Schema)

/-- Adds the relationships of a catalog in place, one by one. The schema is the state, so a refusal
leaves behind whatever was added before it. -/
def relate (catalog : Catalog) : Update Unit := do
  let links ← (catalog.tables.zip catalog.columns).mapM fun row => do
    ofExcept ((← get).tableForeignKeys row.1 row.2)
  (links.flatMap Prod.snd).forM fun k => modify (·.addDirect k)
  (links.flatMap fun link => junctionPairs link.1 link.2).forM fun pair =>
    modify (·.addThrough pair)

def related (s : Schema) (catalog : Catalog) : Except Error Unit × Schema :=
  (relate catalog).run.run s

def relateRemote (child parent localColumn remoteField : String) : Update Unit := do
  let t ← ofExcept ((← get).table parent)
  let c ← ofExcept (t.column localColumn)
  let e : Edge := ⟨.remote, Endpoint.ofColumn t.name c, ⟨child, remoteField, false⟩⟩
  modify fun s => { s with edges := s.edges.insert (s.canonical child, t.key) e }

def Change.update : Change → Update Unit
  | .register table columns names => modify (·.addTable table columns names)
  | .relate catalog => Schema.relate catalog
  | .remote child parent localColumn remoteField =>
    relateRemote child parent localColumn remoteField
  | .edge child parent e => modify (·.setEdge child parent e)

def after (s : Schema) (change : Change) : Schema := (change.update.run.run s).2

section InPlace

variable {α β : Type}

theorem run_bind (x : Update α) (next : α → Update β) (s : Schema) :
    (x >>= next).run.run s =
      match x.run.run s with
      | (.ok a, u) => (next a).run.run u
      | (.error e, u) => (.error e, u) := by
  rw [ExceptT.run_bind, StateT.run_bind]
  generalize x.run.run s = made
  rcases made with ⟨r, u⟩
  cases r <;> rfl

theorem run_mapM_get (f : Schema → α → Except Error β) (items : List α) (s : Schema) :
    (items.mapM fun a => do ofExcept (f (← get) a) : Update _).run.run s =
      (items.mapM (f s), s) := by
  induction items with
  | nil => rfl
  | cons a rest ih =>
    have first : (do ofExcept (f (← get) a) : Update β).run.run s =
        (f s a, s) := by
      change (ofExcept (f s a) : Update β).run.run s = _
      cases f s a <;> rfl
    rw [List.mapM_cons, List.mapM_cons, run_bind, first]
    cases f s a with
    | error e => rfl
    | ok b =>
      dsimp only
      rw [run_bind, ih]
      cases rest.mapM (f s) <;> rfl

theorem run_forM_modify (step : Schema → α → Schema) (items : List α) (s : Schema) :
    (items.forM fun a => modify (step · a) : Update Unit).run.run s =
      (.ok (), items.foldl step s) := by
  induction items generalizing s with
  | nil => rfl
  | cons a rest ih => exact ih (step s a)

/-- The schema is either changed as a whole or not at all. -/
theorem related_eq (s : Schema) (catalog : Catalog) :
    s.related catalog =
      match s.buildRelationships catalog with
      | .ok u => (.ok (), u)
      | .error e => (.error e, s) := by
  unfold related relate buildRelationships foreignKeys
  rw [run_bind, run_mapM_get fun u (row : CatalogTable × List Column) =>
    u.tableForeignKeys row.1 row.2]
  cases (catalog.tables.zip catalog.columns).mapM fun row => s.tableForeignKeys row.1 row.2 with
  | error e => rfl
  | ok links =>
    dsimp only
    rw [run_bind, run_forM_modify addDirect]
    exact run_forM_modify addThrough _ _

theorem run_ofExcept (outcome : Except Error α) (s : Schema) :
    (ofExcept outcome : Update α).run.run s = (outcome, s) := by
  cases outcome <;> rfl

theorem relateRemote_eq (s : Schema) (child parent localColumn remoteField : String) :
    (relateRemote child parent localColumn remoteField).run.run s =
      match s.addRemote child parent localColumn remoteField with
      | .ok u => (.ok (), u)
      | .error e => (.error e, s) := by
  have reading : (get : Update Schema).run.run s = (.ok s, s) := rfl
  unfold relateRemote addRemote
  rw [run_bind, reading]
  dsimp only
  rw [run_bind, run_ofExcept]
  cases s.table parent with
  | error e => rfl
  | ok t =>
    dsimp only
    rw [run_bind, run_ofExcept]
    dsimp only [bind, Except.bind]
    cases t.column localColumn <;> rfl

theorem update_eq (s : Schema) (change : Change) :
    change.update.run.run s =
      match change.apply s with
      | .ok u => (.ok (), u)
      | .error e => (.error e, s) := by
  cases change with
  | register table columns names => rfl
  | relate catalog => exact related_eq s catalog
  | remote child parent localColumn remoteField => exact relateRemote_eq ..
  | edge child parent e => rfl

theorem after_eq (s : Schema) (change : Change) :
    s.after change =
      match change.apply s with
      | .ok u => u
      | .error _ => s := by
  unfold after
  rw [update_eq]
  cases change.apply s <;> rfl

end InPlace

inductive Reachable : Schema → Prop where
  | empty (inflector : Inflector) : Reachable { inflector }
  | catalog {s : Schema} {catalog : Catalog} {aliases : Dict String (List String)}
      {inflector : Inflector} (built : ofCatalog catalog aliases inflector = .ok s) : Reachable s
  | change {s : Schema} (before : Reachable s) (change : Change) : Reachable (s.after change)

/-- Every table stands under its key, and every further name leads to a table. -/
structure Filed (s : Schema) : Prop where
  keyed : ∀ key t, s.tables.get? key = some t → t.key = key ∧ s.canonical t.name = key
  known : ∀ name key, s.aliases.get? name = some key → ∃ t, s.tables.get? key = some t

section Step

variable {s u : Schema}

theorem Filed.of_same (filed : s.Filed) (same : SameTables u s) : u.Filed := by
  constructor
  · unfold canonical
    rw [same.tables, same.inflector]
    exact filed.keyed
  · rw [same.aliases, same.tables]
    exact filed.known

theorem addNames_alias {names : List String} {key : String} {d : Dict String String}
    {name target : String}
    (found : (names.foldl (fun d name => d.insert (s.canonical name) key) d).get? name =
      some target) : target = key ∨ d.get? name = some target := by
  induction names generalizing d with
  | nil => exact Or.inr found
  | cons first rest ih =>
    rcases ih found with same | before
    · exact Or.inl same
    · rw [Dict.get?_insert] at before
      split at before
      · exact Or.inl (Option.some.inj before).symm
      · exact Or.inr before

theorem addTable_alias {table : CatalogTable} {columns : List Column} {names : List String}
    {name key : String} (found : (s.addTable table columns names).aliases.get? name = some key) :
    key = s.canonical table.name ∨ s.aliases.get? name = some key := by
  simp only [addTable] at found
  split at found
  · exact Or.inr found
  · rcases addNames_alias found with same | before
    · exact Or.inl same
    · exact Or.inr before

theorem Filed.addTable (filed : s.Filed) (table : CatalogTable) (columns : List Column)
    (names : List String) : (s.addTable table columns names).Filed := by
  constructor
  · intro key t stored
    rw [addTable_table, Option.or_eq_some_iff] at stored
    unfold canonical
    rw [addTable_inflector]
    rcases stored with before | ⟨-, added⟩
    · exact filed.keyed key t before
    · split at added
      · rename_i same
        rw [← Option.some.inj added, ← same]
        exact ⟨rfl, rfl⟩
      · cases added
  · intro name key found
    rw [addTable_table]
    rcases addTable_alias found with same | before
    · rw [if_pos same.symm]
      cases s.tables.get? key with
      | none => exact ⟨_, rfl⟩
      | some t => exact ⟨t, rfl⟩
    · obtain ⟨t, stored⟩ := filed.known name key before
      rw [stored]
      exact ⟨t, rfl⟩

theorem buildRelationships_tables {catalog : Catalog}
    (built : s.buildRelationships catalog = .ok u) : SameTables u s := by
  obtain ⟨links, -, added⟩ := bind_eq_ok.mp built
  rw [← pure_eq_ok.mp added]
  exact addForeignKeys_tables s links

def remoteEdge (t : Table) (c : Column) (child remoteField : String) : Edge :=
  ⟨.remote, Endpoint.ofColumn t.name c, ⟨child, remoteField, false⟩⟩

/-- The relationship goes under the canonical form of the child's name. -/
def withRemote (s : Schema) (t : Table) (c : Column) (child remoteField : String) : Schema :=
  { s with
    edges := s.edges.insert (s.canonical child, t.key) (remoteEdge t c child remoteField) }

theorem addRemote_eq_ok {child parent localColumn remoteField : String} :
    s.addRemote child parent localColumn remoteField = .ok u ↔
      ∃ t, s.table parent = .ok t ∧ ∃ c, t.column localColumn = .ok c ∧
        s.withRemote t c child remoteField = u := by
  simp only [addRemote, bind_eq_ok, pure_eq_ok]
  rfl

theorem addRemote_tables {child parent localColumn remoteField : String}
    (added : s.addRemote child parent localColumn remoteField = .ok u) : SameTables u s := by
  obtain ⟨t, -, c, -, rfl⟩ := addRemote_eq_ok.mp added
  exact ⟨rfl, rfl, rfl⟩

theorem Filed.apply (filed : s.Filed) {change : Change} (made : change.apply s = .ok u) :
    u.Filed := by
  cases change with
  | register table columns names =>
    rw [← Except.ok.inj made]
    exact filed.addTable table columns names
  | relate catalog => exact filed.of_same (buildRelationships_tables made)
  | remote child parent localColumn remoteField => exact filed.of_same (addRemote_tables made)
  | edge child parent e =>
    rw [← Except.ok.inj made]
    exact filed.of_same ⟨rfl, rfl, rfl⟩

theorem Filed.after (filed : s.Filed) (change : Change) : (s.after change).Filed := by
  rw [after_eq]
  split
  · rename_i changed made
    exact filed.apply made
  · exact filed

theorem filed_empty (inflector : Inflector) (version : Int32) :
    ({ inflector, version } : Schema).Filed := by
  constructor
  · intro key t stored
    cases stored
  · intro name key found
    cases found

theorem registered_filed (catalog : Catalog) (aliases : Dict String (List String))
    (inflector : Inflector) : (registered catalog aliases inflector).Filed := by
  apply registered_induction
  · exact filed_empty inflector catalog.version
  · intro s table columns names filed
    exact filed.addTable ..

end Step

theorem Reachable.filed {s : Schema} (reachable : s.Reachable) : s.Filed := by
  induction reachable with
  | empty inflector => exact filed_empty inflector 0
  | @catalog s catalog aliases inflector built =>
    obtain ⟨links, -, rfl⟩ := ofCatalog_made built
    exact (registered_filed catalog aliases inflector).of_same (addForeignKeys_tables _ links)
  | change _ change ih => exact ih.after change

section Names

variable {s : Schema} (filed : s.Filed)
include filed

theorem resolve?_registered {name key : String} (resolved : s.resolve? name = some key) :
    ∃ t, s.tables.get? key = some t := by
  simp only [resolve?] at resolved
  split at resolved
  · rename_i registered
    rw [← Option.some.inj resolved]
    exact Option.isSome_iff_exists.mp registered
  · exact filed.known _ _ resolved

theorem edgeKey_of_table {name : String} {t : Table} (found : s.table name = .ok t) :
    s.edgeKey name = t.key := by
  obtain ⟨key, resolved, stored⟩ := Option.bind_eq_some_iff.mp (table_eq_ok.mp found)
  rw [edgeKey, resolved, Option.getD_some]
  exact (filed.keyed key t stored).1.symm

end Names

end Schema

end Lateral
