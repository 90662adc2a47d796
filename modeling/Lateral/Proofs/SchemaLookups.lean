import Lateral.Proofs.ColumnPositions
import Lateral.Proofs.SchemaRuns

/-!
Looking up names in a schema, after any sequence of calls. A name leads to a key, and the key to a
table that never changes again once it is registered.
-/

namespace Lateral

namespace Schema
open Outcome

def run (s : Schema) (changes : List Change) : Schema := changes.foldl after s

section Keeps

variable {s u : Schema} {key : String} {t : Table}

theorem apply_keeps {change : Change} (made : change.apply s = .ok u)
    (stored : s.tables.get? key = some t) : u.tables.get? key = some t := by
  cases change with
  | register table columns names =>
    rw [← Except.ok.inj made, addTable_table, stored, Option.some_or]
  | relate catalog => rw [(buildRelationships_tables made).tables, stored]
  | remote child parent localColumn remoteField => rw [(addRemote_tables made).tables, stored]
  | edge child parent e =>
    rw [← Except.ok.inj made]
    exact stored

theorem after_keeps (stored : s.tables.get? key = some t) (change : Change) :
    (s.after change).tables.get? key = some t := by
  rw [after_eq]
  split
  · rename_i changed made
    exact apply_keeps made stored
  · exact stored

theorem run_keeps (stored : s.tables.get? key = some t) (changes : List Change) :
    (s.run changes).tables.get? key = some t := by
  induction changes generalizing s with
  | nil => exact stored
  | cons change rest ih => exact ih (after_keeps stored change)

theorem Reachable.run (reachable : s.Reachable) (changes : List Change) :
    (s.run changes).Reachable := by
  induction changes generalizing s with
  | nil => exact reachable
  | cons change rest ih => exact ih (reachable.change change)

end Keeps

section Names

variable {s : Schema} {name key : String} {t : Table}

theorem table?_of_resolved (resolved : s.resolve? name = some key)
    (stored : s.tables.get? key = some t) : s.table? name = some t := by
  rw [table?, resolved]
  exact stored

theorem resolve?_own (stored : s.tables.get? (s.canonical name) = some t) :
    s.resolve? name = some (s.canonical name) := by
  unfold resolve?
  generalize s.canonical name = key at stored ⊢
  simp [Dict.contains, stored]

end Names

end Schema

/-- In every schema that calls lead to, a table stands under the canonical form of its name, with
all positions of its columns in range, and stays there as it is whatever follows; a further name
leads to a table. So a name finds a table exactly if it leads to a key, and finds the table under
that key; where the name is that of a table, no further name can take it away. -/
theorem lookups_hold {s : Schema} (reachable : s.Reachable) :
    (∀ key t, s.tables.get? key = some t →
      t.key = key ∧ s.canonical t.name = key ∧ t.index.InRange t.columns ∧
        t.index.Finds t.columns ∧ ∀ later, (s.run later).tables.get? key = some t) ∧
    (∀ name key, s.aliases.get? name = some key → ∃ t, s.tables.get? key = some t) ∧
    (∀ name, (∃ t, s.table name = .ok t) ↔ ∃ key, s.resolve? name = some key) ∧
    (∀ name key, s.resolve? name = some key →
      ∃ t, s.tables.get? key = some t ∧ s.table name = .ok t) ∧
    ∀ name t, s.tables.get? (s.canonical name) = some t →
      s.resolve? name = some (s.canonical name) ∧ s.table name = .ok t := by
  have filed := reachable.filed
  have found : ∀ name key, s.resolve? name = some key →
      ∃ t, s.tables.get? key = some t ∧ s.table name = .ok t := by
    intro name key resolved
    obtain ⟨t, stored⟩ := Schema.resolve?_registered filed resolved
    exact ⟨t, stored, Schema.table_eq_ok.mpr (Schema.table?_of_resolved resolved stored)⟩
  refine ⟨?_, filed.known, ?_, found, ?_⟩
  · intro key t stored
    obtain ⟨own, named⟩ := filed.keyed key t stored
    exact ⟨own, named, t.index_inRange, t.index_finds, Schema.run_keeps stored⟩
  · intro name
    constructor
    · rintro ⟨t, looked⟩
      obtain ⟨key, resolved, -⟩ := Option.bind_eq_some_iff.mp (Schema.table_eq_ok.mp looked)
      exact ⟨key, resolved⟩
    · rintro ⟨key, resolved⟩
      obtain ⟨t, -, looked⟩ := found name key resolved
      exact ⟨t, looked⟩
  · intro name t stored
    have resolved := Schema.resolve?_own stored
    exact ⟨resolved, Schema.table_eq_ok.mpr (Schema.table?_of_resolved resolved stored)⟩

/-- Humans are also called echoes and thieves. A second table of humans is left out, a table of
thieves takes the echoes over, and the two calls after it are refused. -/
def crowdChanges : List Schema.Change := [
  .register { name := "humans" }
    [{ id := 1, name := "id", sqlType := "bigint", primaryKey := true },
      { id := 2, name := "Name", sqlType := "text" },
      { id := 2, name := "NAME", sqlType := "tsvector" }] ["echoes", "thieves"],
  .register { name := "Human" } [] ["volcanoes"],
  .register { name := "thieves", kind := .view }
    [{ id := 1, name := "id", sqlType := "bigint" }] ["echoes"],
  .relate { tables := [{ name := "volcanoes" }], columns := [[]] },
  .remote "canvases" "echo" "name" "owner",
  .edge "thief" "human" ⟨.oneToOne, ⟨"thieves", "id", false⟩, ⟨"humans", "id", false⟩⟩]

def crowd : Schema := Schema.run {} crowdChanges

/-- The name thieves is that of a table, and does not lead to the humans any more. -/
theorem crowd_lookups : ∃ humans thieves,
    crowd.tables.get? "human" = some humans ∧ humans.index.byName.get? "name" = some 2 ∧
    crowd.aliases.get? "thief" = some "human" ∧ crowd.resolve? "Thieves" = some "thief" ∧
    crowd.table "Thieves" = .ok thieves ∧ thieves.kind = .view ∧
    crowd.resolve? "volcano" = none ∧ (¬ ∃ t, crowd.table "volcano" = .ok t) ∧
    crowd.canonical humans.name = "human" ∧ humans.index.InRange humans.columns ∧
    ∀ later, (crowd.run later).tables.get? "human" = some humans := by
  have facts : ((crowd.tables.get? "human").map fun t => t.index.byName.get? "name",
      crowd.aliases.get? "thief", crowd.resolve? "Thieves",
      (crowd.tables.get? "thief").map Table.kind, crowd.resolve? "volcano") =
      (some (some 2), some "human", some "thief", some .view, none) := by
    decide +kernel
  simp only [Prod.mk.injEq, Option.map_eq_some_iff] at facts
  obtain ⟨⟨humans, stored, named⟩, further, resolved, ⟨thieves, own, kind⟩, unknown⟩ := facts
  have reachable : crowd.Reachable := (Schema.Reachable.empty .english).run crowdChanges
  obtain ⟨kept, -, found, looked, -⟩ := lookups_hold reachable
  obtain ⟨t, under, thief⟩ := looked "Thieves" "thief" resolved
  cases Option.some.inj (own.symm.trans under)
  obtain ⟨-, canonical, inRange, -, later⟩ := kept "human" humans stored
  refine ⟨humans, thieves, stored, named, further, resolved, thief, kind, unknown, ?_, canonical,
    inRange, later⟩
  rw [found "volcano"]
  rintro ⟨key, some_key⟩
  cases unknown.symm.trans some_key

end Lateral
