import Lateral.Proofs.CompiledWrite
import Lateral.Proofs.EdgeColumns
import Lateral.Proofs.Placement

/-!
The tables that mutations write to. Every one is registered. The table of a write was checked when
it was found, so that it may be written to. A junction was never checked: it is taken from the
relationship of two other tables, and may be any table that holds keys to both.
-/

namespace Lateral
open Mutation Outcome

namespace Schema

def Registers (s : Schema) (name : String) (t : Table) : Prop :=
  s.tables.get? t.key = some t ∧ t.name = name

def Joins (s : Schema) (catalog : Catalog) (t : Table) : Prop :=
  ∃ (n i j : ℕ) (l r : ForeignKey), s.keyAt? catalog n i = some l ∧ s.keyAt? catalog n j = some r ∧
    l.tableKey = t.key ∧ l.isSelf = false ∧ r.isSelf = false ∧ l.column.column ≠ r.column.column

section Built

variable {s : Schema} {catalog : Catalog} {aliases : Dict String (List String)}
  {inflector : Inflector}

theorem junction_registered (built : ofCatalog catalog aliases inflector = .ok s) {c p : String}
    {e : Edge} {j : Junction} (stored : s.edges.get? (c, p) = some e)
    (through : e.junction? = some j) :
    ∃ t, s.Registers j.table t ∧ s.Joins catalog t := by
  cases defines_of_stored built stored with
  | held | pointed => cases through
  | @crossed n i j l r unlinked first left right =>
    cases through
    obtain ⟨-, -, outbound, outbound', apart⟩ := crosses_of_mem first.1 left right
    obtain ⟨row, -, column, -, key⟩ := keyAt?_row left
    obtain ⟨holder, _, _, found, -, -, same⟩ := keyOf?_found key
    refine ⟨holder, ⟨table?_stored built found, ?_⟩, n, i, j, l, r, left, right, ?_, outbound,
      outbound', apart⟩
    · rw [same]
      rfl
    · rw [same]

end Built

end Schema

theorem Edge.junction?_of_through {e : Edge} {j : Junction} (kind : e.kind = .through j) :
    e.junction? = some j := by
  simp only [Edge.junction?, kind]

def Step.edge? : Step → Option Edge
  | .rows r _ _ => r.edge
  | .link g _ _ | .union g => some g.edge

def Command.crossing? : Command → Option Crossing
  | .cross c | .uncross c => some c
  | _ => none

def Command.KeepsToWritable (s : Schema) (command : Command) : Prop :=
  ∀ name, command.target? = some name → ∃ t, s.Registers name t ∧ t.isWritable = true

theorem step_target {ctx : Context} {step : Step} {ctes : List Cte} (made : StepMade ctx step ctes)
    {cte : Cte} (member : cte ∈ ctes) {name : String} (target : cte.command.target? = some name) :
    name = step.table.name ∨ cte.command.crossing?.isSome = true ∧
      ∃ e j, step.edge? = some e ∧ e.junction? = some j ∧ name = j.table := by
  cases made with
  | insert | update | attach | detach =>
    rw [List.mem_singleton] at member
    subst member
    cases target
    exact Or.inl rfl
  | read | pick | union =>
    rw [List.mem_singleton] at member
    subst member
    cases target
  | insertAcross writes filled edge through =>
    simp only [List.mem_cons, List.not_mem_nil, or_false] at member
    rcases member with rfl | rfl
    · cases target
      exact Or.inl rfl
    · cases target
      exact Or.inr ⟨rfl, _, _, edge, through, rfl⟩
  | connectAcross kind | disconnectAcross kind =>
    simp only [List.mem_cons, List.not_mem_nil, or_false] at member
    rcases member with rfl | rfl
    · cases target
    · cases target
      exact Or.inr ⟨rfl, _, _, rfl, Edge.junction?_of_through kind, rfl⟩

section Chains

variable {s : Schema} {catalog : Catalog} {aliases : Dict String (List String)}
  {inflector : Inflector}
  (schema : Schema.ofCatalog catalog aliases inflector = .ok s)
include schema

theorem tables_stored {kind : RowKind} {t : Table} {value : Json} {chain : Chain}
    (built : build s kind t value = .ok chain) (root : s.tables.get? t.key = some t) :
    ∀ u ∈ chain.tree.tables, s.tables.get? u.key = some u := by
  intro u member
  rcases build_tables built u member with rfl | ⟨-, name, found⟩
  · exact root
  · exact Schema.table?_stored schema (Schema.table_eq_ok.mp found)

theorem below_edge_stored {kind : RowKind} {t : Table} {value : Json} {chain : Chain}
    (built : build s kind t value = .ok chain) (root : s.tables.get? t.key = some t) {p : Rows}
    {w : Write} (hangs : chain.tree.HasBelow p w) :
    ∃ e, w.edge? = some e ∧ s.edges.get? (w.table.key, p.table.key) = some e := by
  obtain ⟨f, -, e, found, edge, own⟩ := (build_found built hangs).related
  have above := tables_stored schema built root _ (hasBelow_table_mem hangs).1
  exact ⟨e, own, Schema.edge_stored schema found above edge⟩

theorem step_edge_stored {kind : RowKind} {t : Table} {value : Json} {chain : Chain}
    (built : build s kind t value = .ok chain) (root : s.tables.get? t.key = some t) {step : Step}
    (member : step ∈ chain.steps) {e : Edge} (follows : step.edge? = some e) :
    ∃ keys, s.edges.get? keys = some e := by
  have stored {p : Rows} {w : Write} (hangs : chain.tree.HasBelow p w) (own : w.edge? = some e) :
      ∃ keys, s.edges.get? keys = some e := by
    obtain ⟨e', same, found⟩ := below_edge_stored schema built root hangs
    rw [own] at same
    cases same
    exact ⟨_, found⟩
  rcases chain_step_stands member with rfl | stands
  · obtain ⟨-, -, -, -, none, -⟩ := build_root built
    rw [Step.edge?, none] at follows
    cases follows
  · cases stands with
    | rows hangs | link hangs _ | union hangs => exact stored hangs follows

end Chains

section Targets

variable {c : Compiler} {r : Request} {given : Variables} {catalog : Catalog}
  {aliases : Dict String (List String)} {inflector : Inflector}

theorem root_registered (schema : Schema.ofCatalog catalog aliases inflector = .ok c.schema)
    (mutates : r.operation.isMutation = true) {rootId : ℕ} {ctx : Context}
    (rooted : c.mutationRoot r = .ok (rootId, ctx)) :
    c.schema.tables.get? ctx.table.key = some ctx.table ∧ ctx.table.isWritable = true := by
  obtain ⟨-, -, -, found, writable, -⟩ := mutationRoot_made rooted
  exact ⟨Schema.table?_stored schema (Schema.table_eq_ok.mp found),
    requireWritable_eq_ok.mp (writable mutates)⟩

/-- A registered table that may be written to, or one that a relationship goes through. -/
def Schema.Takes (s : Schema) (catalog : Catalog) (command : Command) (name : String) : Prop :=
  ∃ t, s.Registers name t ∧
    (t.isWritable = true ∨ command.crossing?.isSome = true ∧ s.Joins catalog t)

theorem rows_targets (schema : Schema.ofCatalog catalog aliases inflector = .ok c.schema)
    (mutates : r.operation.isMutation = true) (run : WriteRun c r given) :
    ∀ cte ∈ run.ctes, ∀ name, cte.command.target? = some name →
      c.schema.Takes catalog cte.command name := by
  obtain ⟨root, writable⟩ := root_registered schema mutates run.rooted
  intro cte member name target
  rcases mem_ctes run.commanded member with rfl | ⟨step, listed, own, made, inside⟩ | ⟨_, rfl⟩
  · cases target
  · rcases step_target (step_made made) inside target with
      rfl | ⟨crosses, e, j, follows, through, rfl⟩
    · have table := step_table_mem listed
      refine ⟨step.table, ⟨tables_stored schema run.built root _ table, rfl⟩, Or.inl ?_⟩
      rcases build_tables run.built _ table with same | offered
      · rw [same]
        exact writable
      · exact offered.1
    · obtain ⟨keys, stored⟩ := step_edge_stored schema run.built root listed follows
      obtain ⟨t, registered, joins⟩ := Schema.junction_registered schema stored through
      exact ⟨t, registered, Or.inr ⟨crosses, joins⟩⟩
  · cases target

theorem deletion_target (schema : Schema.ofCatalog catalog aliases inflector = .ok c.schema)
    (mutates : r.operation.isMutation = true) {rootId : ℕ} {ctx : Context} {cte : Cte}
    (rooted : c.mutationRoot r = .ok (rootId, ctx)) (deleted : ctx.deletion = .ok cte)
    {name : String} (target : cte.command.target? = some name) :
    c.schema.Takes catalog cte.command name := by
  obtain ⟨root, writable⟩ := root_registered schema mutates rooted
  simp only [Context.deletion, bind_eq_ok, pure_eq_ok] at deleted
  obtain ⟨filter, -, rfl⟩ := deleted
  cases target
  exact ⟨ctx.table, ⟨root, rfl⟩, Or.inl writable⟩

end Targets

/-- A mutation that compiles writes to registered tables only. They may all be written to, but for
junctions: nothing read-only is written just when no junction is read-only, and so never where all
tables that hold keys to two others may be written to. -/
theorem write_targets_writable_iff {c : Compiler} {catalog : Catalog}
    {aliases : Dict String (List String)} {inflector : Inflector}
    (schema : Schema.ofCatalog catalog aliases inflector = .ok c.schema) (r : Request)
    (given : Variables) (statement : Statement) (mutates : r.operation.isMutation = true)
    (compiled : c.compileMutation r given = .ok statement) :
    ∃ ctes, c.commands r given = .ok ctes ∧ c.Opens given statement ctes ∧
      (∀ cte ∈ ctes, ∀ name, cte.command.target? = some name →
        ∃ t, c.schema.Registers name t ∧
          (t.isWritable = true ∨ cte.command.crossing?.isSome = true ∧ c.schema.Joins catalog t)) ∧
      ((∀ cte ∈ ctes, cte.command.KeepsToWritable c.schema) ↔
        ∀ cte ∈ ctes, cte.command.crossing?.isSome = true →
          cte.command.KeepsToWritable c.schema) ∧
      ((∀ t, c.schema.Joins catalog t → c.schema.tables.get? t.key = some t →
          t.isWritable = true) →
        ∀ cte ∈ ctes, cte.command.KeepsToWritable c.schema) := by
  obtain ⟨ctes, commanded, opens, made⟩ := Compiler.commands_of_compiled mutates compiled
  have targets : ∀ cte ∈ ctes, ∀ name, cte.command.target? = some name →
      c.schema.Takes catalog cte.command name := by
    rcases made with ⟨run, rfl⟩ | ⟨rootId, ctx, cte, rooted, deleted, rfl⟩
    · exact rows_targets schema mutates run
    · intro cte member name target
      rw [List.mem_singleton] at member
      subst member
      exact deletion_target schema mutates rooted deleted target
  refine ⟨ctes, commanded, opens, targets, ⟨fun all cte member _ => all cte member, ?_⟩, ?_⟩
  · intro junctions cte member name target
    obtain ⟨t, registered, writable | ⟨crosses, -⟩⟩ := targets cte member name target
    · exact ⟨t, registered, writable⟩
    · exact junctions cte member crosses name target
  · intro joined cte member name target
    obtain ⟨t, registered, writable | ⟨-, joins⟩⟩ := targets cte member name target
    · exact ⟨t, registered, writable⟩
    · exact ⟨t, registered, joined t joins registered.1⟩

def proofCatalog (proofs : TableKind) : Catalog where
  tables := [{ name := "humans" }, { name := "quizzes" }, { name := "proofs", kind := proofs }]
  columns := [
    [{ id := 1, name := "id", sqlType := "bigint", primaryKey := true }],
    [{ id := 1, name := "id", sqlType := "bigint", primaryKey := true }],
    [{ id := 1, name := "human_id", sqlType := "bigint", target := "humans", targetIds := [1] },
      { id := 2, name := "quiz_id", sqlType := "bigint", target := "quizzes",
        targetIds := [1] }]]

def humanWithQuiz : Variables := ⟨[("data", .obj [
  ("id", .int 1), ("quizzes", .obj [("id", .int 2)])])]⟩

theorem proofs_written : ∃ (c : Compiler) (statement : Statement) (ctes : List Cte),
    Schema.ofCatalog (proofCatalog .table) {} = .ok c.schema ∧
    c.compileMutation (addTo "humans") humanWithQuiz = .ok statement ∧
    c.commands (addTo "humans") humanWithQuiz = .ok ctes ∧
    (ctes.map fun cte => cte.command.target?) =
      [none, some "humans", some "quizzes", some "proofs", none] ∧
    ∀ cte ∈ ctes, ∀ name, cte.command.target? = some name → ∃ t, c.schema.Registers name t := by
  have found : (Schema.ofCatalog (proofCatalog .table) {} >>= fun s =>
      (addedBy "humans" humanWithQuiz s).map (List.map fun cte => cte.command.target?)) =
      .ok [none, some "humans", some "quizzes", some "proofs", none] := by
    decide +kernel
  obtain ⟨s, built, found⟩ := bind_eq_ok.mp found
  obtain ⟨ctes, added, targets⟩ := map_eq_ok.mp found
  obtain ⟨⟨statement, compiled⟩, commanded⟩ := addedBy_eq_ok.mp added
  obtain ⟨listed, same, -, registered, -⟩ := write_targets_writable_iff (c := ⟨s, {}⟩) built
    (addTo "humans") humanWithQuiz statement rfl compiled
  rw [commanded] at same
  cases same
  refine ⟨⟨s, {}⟩, statement, ctes, built, compiled, commanded, targets, ?_⟩
  intro cte member name target
  obtain ⟨t, table, -⟩ := registered cte member name target
  exact ⟨t, table⟩

/-- Where the proofs are a view, they are written to nevertheless. -/
theorem proofs_view_written : ∃ (c : Compiler) (statement : Statement) (ctes : List Cte),
    Schema.ofCatalog (proofCatalog .view) {} = .ok c.schema ∧
    c.compileMutation (addTo "humans") humanWithQuiz = .ok statement ∧
    c.commands (addTo "humans") humanWithQuiz = .ok ctes ∧
    ∃ cte ∈ ctes, ¬ cte.command.KeepsToWritable c.schema := by
  have found : (Schema.ofCatalog (proofCatalog .view) {} >>= fun s =>
      (addedBy "humans" humanWithQuiz s).map fun ctes =>
        (ctes.map fun cte => cte.command.target?, (s.tables.get? "proof").map Table.isWritable)) =
      .ok ([none, some "humans", some "quizzes", some "proofs", none], some false) := by
    decide +kernel
  obtain ⟨s, built, found⟩ := bind_eq_ok.mp found
  obtain ⟨ctes, added, found⟩ := map_eq_ok.mp found
  obtain ⟨targets, readOnly⟩ := Prod.mk.inj found
  obtain ⟨⟨statement, compiled⟩, commanded⟩ := addedBy_eq_ok.mp added
  have member : some "proofs" ∈ ctes.map fun cte => cte.command.target? := by
    rw [targets]
    decide
  obtain ⟨cte, among, target⟩ := List.mem_map.mp member
  refine ⟨⟨s, {}⟩, statement, ctes, built, compiled, commanded, cte, among, ?_⟩
  intro keeps
  obtain ⟨t, ⟨stored, named⟩, writable⟩ := keeps "proofs" target
  have key : t.key = "proof" := by
    rw [← (Schema.stored_key built stored).2, named]
    decide +kernel
  rw [← key, stored, Option.map_some, writable] at readOnly
  cases readOnly

end Lateral
