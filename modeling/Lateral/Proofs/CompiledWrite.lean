import Lateral.Proofs.CompiledTemplates
import Lateral.Proofs.Commands
import Lateral.Proofs.Expansion

/-!
Mutations that write rows, taken apart: the root, the data, the chain of writes that the data asks
for, and the commands that the chain comes down to.
-/

namespace Lateral
open Mutation Outcome

def Operation.rowKind? : Operation → Option RowKind
  | .insert => some .insert
  | .upsert => some .upsert
  | .update => some .update
  | .query | .delete => none

theorem Operation.isMutation_of_rowKind? {operation : Operation} {kind : RowKind}
    (writes : operation.rowKind? = some kind) : operation.isMutation = true := by
  cases operation with
  | query | delete => cases writes
  | insert | upsert | update => rfl

def Chain.rootStep (chain : Chain) : Step := .rows chain.root none chain.children

def Command.columns : Command → List Assignment
  | .insert _ columns .. | .update _ columns .. => columns
  | _ => []

/-- All that is worked out on the way to a statement that writes rows. -/
structure WriteRun (c : Compiler) (r : Request) (given : Variables) where
  kind : RowKind
  rootId : Nat
  ctx : Context
  name : String
  value : Json
  chain : Chain
  ctes : List Cte
  read : Template
  skipped : SkipMask
  writes : r.operation.rowKind? = some kind
  rooted : c.mutationRoot r = .ok (rootId, ctx)
  loaded : Compiler.payload r given = .ok (name, value)
  built : build c.schema kind ctx.table value = .ok chain
  commanded : ctx.ctes name chain = .ok ctes
  answered : (c.queryContext r (some rootId)).compile = .ok (read, skipped)

theorem mutationRoot_made {c : Compiler} {r : Request} {rootId : Nat} {ctx : Context}
    (rooted : c.mutationRoot r = .ok (rootId, ctx)) :
    r.roots.head? = some rootId ∧ r.selections[rootId]? = some ctx.root ∧ ctx.schema = c.schema ∧
      c.schema.table ctx.root.table = .ok ctx.table ∧
      (r.operation.isMutation = true → ctx.table.requireWritable = .ok ()) ∧
      ∀ p ∈ ctx.root.presets, ∃ col, ctx.table.column p.column = .ok col := by
  unfold Compiler.mutationRoot at rooted
  cases first : r.roots.head? with
  | none => simp [first, throw_eq_ok] at rooted
  | some id =>
    cases found : r.selections[id]? with
    | none => simp [first, found, throw_eq_ok] at rooted
    | some root =>
      simp only [first, found, bind_eq_ok, check_when_eq_ok, pure_eq_ok, Prod.mk.injEq] at rooted
      obtain ⟨t, table, writable, columns, checked, rfl, rfl⟩ := rooted
      refine ⟨rfl, found, rfl, table, writable, ?_⟩
      intro p member
      obtain ⟨col, _, named⟩ := mapM_mem checked member
      exact ⟨col, named⟩

namespace WriteRun

variable {c : Compiler} {r : Request} {given : Variables}

def statement (run : WriteRun c r given) : Statement :=
  c.finish given
    ("WITH " ++ Template.join ", " (run.ctes.map Cte.sql) ++ " " ++ run.read, run.skipped)

theorem of_template {kind : RowKind} {rootId : Nat} {ctx : Context} {compiled : Template × SkipMask}
    (writes : r.operation.rowKind? = some kind) (rooted : c.mutationRoot r = .ok (rootId, ctx))
    (made : c.writeTemplate ctx r rootId kind given = .ok compiled) :
    ∃ run : WriteRun c r given, run.statement = c.finish given compiled := by
  simp only [Compiler.writeTemplate, Compiler.withRead, bind_eq_ok, pure_eq_ok] at made
  obtain ⟨⟨name, value⟩, loaded, chain, built, ctes, commanded, ⟨read, skipped⟩, answered, rfl⟩ :=
    made
  exact ⟨⟨kind, rootId, ctx, name, value, chain, ctes, read, skipped, writes, rooted, loaded, built,
    commanded, answered⟩, rfl⟩

theorem of_compiled {kind : RowKind} {statement : Statement}
    (writes : r.operation.rowKind? = some kind)
    (compiled : c.compileMutation r given = .ok statement) :
    ∃ run : WriteRun c r given, run.statement = statement := by
  obtain ⟨template, made, rfl⟩ := Compiler.compileMutation_eq_ok.mp compiled
  obtain ⟨⟨rootId, ctx⟩, rooted, made⟩ := bind_eq_ok.mp made
  cases operation : r.operation with
  | query => simp [operation, Operation.rowKind?] at writes
  | delete => simp [operation, Operation.rowKind?] at writes
  | insert | upsert | update =>
    simp only [operation] at made
    exact of_template (by rw [operation]; rfl) rooted made

theorem of_succeeds {kind : RowKind} (writes : r.operation.rowKind? = some kind)
    (succeeds : (c.compileMutation r given).toBool = true) :
    ∃ run : WriteRun c r given, c.compileMutation r given = .ok run.statement := by
  cases compiled : c.compileMutation r given with
  | error e =>
    rw [compiled] at succeeds
    cases succeeds
  | ok statement =>
    obtain ⟨run, same⟩ := of_compiled writes compiled
    exact ⟨run, congrArg Except.ok same.symm⟩

theorem root_eq (run : WriteRun c r given) {id : Nat} {root : Selection} {t : Table}
    (first : r.roots.head? = some id) (selected : r.selections[id]? = some root)
    (found : c.schema.table root.table = .ok t) : run.ctx.root = root ∧ run.ctx.table = t := by
  obtain ⟨own, chosen, -, table, -⟩ := mutationRoot_made run.rooted
  cases Option.some.inj (own.symm.trans first)
  have same := Option.some.inj (chosen.symm.trans selected)
  rw [same] at table
  exact ⟨same, Except.ok.inj (table.symm.trans found)⟩

theorem value_eq (run : WriteRun c r given) {name : String} {value : Json}
    (loaded : Compiler.payload r given = .ok (name, value)) : run.value = value :=
  (Prod.mk.inj (Except.ok.inj (run.loaded.symm.trans loaded))).2

theorem chain_eq (run : WriteRun c r given) {kind : RowKind} {t : Table} {name : String}
    {value : Json} {chain : Chain} (writes : r.operation.rowKind? = some kind)
    (table : run.ctx.table = t) (loaded : Compiler.payload r given = .ok (name, value))
    (built : build c.schema kind t value = .ok chain) : run.chain = chain := by
  have own := run.built
  rw [table, run.value_eq loaded, Option.some.inj (run.writes.symm.trans writes)] at own
  exact Except.ok.inj (own.symm.trans built)

end WriteRun

theorem Chain.rootStep_mem (chain : Chain) : chain.rootStep ∈ chain.steps :=
  List.mem_append_right _ (List.mem_cons_self ..)

namespace Mutation

theorem step_commands_mem {ctx : Context} {name : String} {chain : Chain} {ctes : List Cte}
    (commanded : ctx.ctes name chain = .ok ctes) {step : Step} (member : step ∈ chain.steps) :
    ∃ own, ctx.step step = .ok own ∧ own ⊆ ctes := by
  simp only [Context.ctes, bind_eq_ok, pure_eq_ok] at commanded
  obtain ⟨rows, each, junctions, _, rfl⟩ := commanded
  obtain ⟨own, among, made⟩ := mapM_mem each member
  refine ⟨own, made, ?_⟩
  intro cte inside
  have written : cte ∈ rows.flatten := List.mem_flatten.mpr ⟨own, among, inside⟩
  exact List.mem_cons_of_mem _ (List.mem_append_left _ written)

theorem mem_ctes {ctx : Context} {name : String} {chain : Chain} {ctes : List Cte}
    (commanded : ctx.ctes name chain = .ok ctes) {cte : Cte} (member : cte ∈ ctes) :
    cte = ⟨Input.name, .input name⟩ ∨
      (∃ step ∈ chain.steps, ∃ own, ctx.step step = .ok own ∧ cte ∈ own) ∨
      ∃ junction, cte = settle (junctionWrites chain.steps) junction := by
  simp only [Context.ctes, bind_eq_ok, pure_eq_ok] at commanded
  obtain ⟨rows, each, junctions, settled, rfl⟩ := commanded
  rcases List.mem_cons.mp member with data | later
  · exact Or.inl data
  · rcases List.mem_append.mp later with row | junction
    · obtain ⟨own, among, inside⟩ := List.mem_flatten.mp row
      obtain ⟨step, listed, made⟩ := mapM_made each among
      exact Or.inr (Or.inl ⟨step, listed, own, made, inside⟩)
    · obtain ⟨table, -, made⟩ := mapM_made settled junction
      split at made
      · cases made
      · exact Or.inr (Or.inr ⟨table, (Except.ok.inj made).symm⟩)

theorem root_command {ctx : Context} {r : Rows} {children : List Write} {ctes : List Cte}
    (run : ctx.step (.rows r none children) = .ok ctes) :
    ∃ cte, ctes = [cte] ∧ cte.command.columns = r.assignments ctx.root none children := by
  cases step_made run with
  | insert | update => exact ⟨_, rfl, rfl⟩
  | read _ empty => exact ⟨_, rfl, empty.symm⟩

end Mutation

def Compiler.commands (c : Compiler) (r : Request) (given : Variables) :
    Except Error (List Cte) := do
  let (_, ctx) ← c.mutationRoot r
  match r.operation with
  | .query => return []
  | .delete => return [← ctx.deletion]
  | .insert => rows ctx .insert
  | .upsert => rows ctx .upsert
  | .update => rows ctx .update
where
  rows (ctx : Context) (kind : RowKind) : Except Error (List Cte) := do
    let (name, value) ← Compiler.payload r given
    ctx.ctes name (← build c.schema kind ctx.table value)

/-- A statement opens with these commands, and a read follows them. -/
def Compiler.Opens (c : Compiler) (given : Variables) (statement : Statement) (ctes : List Cte) :
    Prop :=
  ∃ (read : Template) (skipped : SkipMask), statement = c.finish given
    ("WITH " ++ Template.join ", " (ctes.map Cte.sql) ++ " " ++ read, skipped)

theorem WriteRun.commands_eq {c : Compiler} {r : Request} {given : Variables}
    (run : WriteRun c r given) : c.commands r given = .ok run.ctes := by
  have listed : Compiler.commands.rows c r given run.ctx run.kind = .ok run.ctes := by
    simp only [Compiler.commands.rows, run.loaded, bind_eq_ok]
    exact ⟨_, rfl, _, run.built, run.commanded⟩
  have own := run.writes
  simp only [Compiler.commands, run.rooted, bind_eq_ok]
  refine ⟨_, rfl, ?_⟩
  cases operation : r.operation with
  | query | delete => simp [operation, Operation.rowKind?] at own
  | insert | upsert | update =>
    rw [operation] at own
    rw [← Option.some.inj own] at listed
    exact listed

theorem Compiler.commands_of_compiled {c : Compiler} {r : Request} {given : Variables}
    {statement : Statement} (mutates : r.operation.isMutation = true)
    (compiled : c.compileMutation r given = .ok statement) :
    ∃ ctes, c.commands r given = .ok ctes ∧ c.Opens given statement ctes ∧
      ((∃ run : WriteRun c r given, run.ctes = ctes) ∨
        ∃ rootId ctx cte, c.mutationRoot r = .ok (rootId, ctx) ∧ ctx.deletion = .ok cte ∧
          ctes = [cte]) := by
  cases writes : r.operation.rowKind? with
  | some kind =>
    obtain ⟨run, rfl⟩ := WriteRun.of_compiled writes compiled
    exact ⟨run.ctes, run.commands_eq, ⟨run.read, run.skipped, rfl⟩, Or.inl ⟨run, rfl⟩⟩
  | none =>
    obtain ⟨template, made, rfl⟩ := Compiler.compileMutation_eq_ok.mp compiled
    obtain ⟨⟨rootId, ctx⟩, rooted, made⟩ := bind_eq_ok.mp made
    cases operation : r.operation with
    | query => simp [operation, Operation.isMutation] at mutates
    | insert | upsert | update => simp [operation, Operation.rowKind?] at writes
    | delete =>
      simp only [operation, Compiler.withRead, bind_eq_ok, pure_eq_ok] at made
      obtain ⟨cte, deleted, ⟨read, skipped⟩, -, rfl⟩ := made
      refine ⟨[cte], ?_, ⟨read, skipped, rfl⟩, Or.inr ⟨rootId, ctx, cte, rooted, deleted, rfl⟩⟩
      simp only [Compiler.commands, rooted, operation, bind_eq_ok, pure_eq_ok]
      exact ⟨_, rfl, _, deleted, rfl⟩

theorem WriteRun.root_command {c : Compiler} {r : Request} {given : Variables}
    (run : WriteRun c r given) :
    ∃ root ∈ run.ctes, run.ctx.step run.chain.rootStep = .ok [root] ∧
      root.command.columns = run.chain.root.assignments run.ctx.root none run.chain.children := by
  obtain ⟨own, made, among⟩ := step_commands_mem run.commanded run.chain.rootStep_mem
  obtain ⟨root, rfl, columns⟩ := Mutation.root_command made
  exact ⟨root, among (List.mem_singleton_self root), made, columns⟩

def addTo (table : String) : Request := .mutation .insert "data" [Selection.ofTable 0 table]

def addedBy (table : String) (data : Variables) (s : Schema) : Except Error (List Cte) := do
  let c : Compiler := { schema := s }
  let _ ← c.compileMutation (addTo table) data
  c.commands (addTo table) data

theorem addedBy_eq_ok {table : String} {data : Variables} {s : Schema} {ctes : List Cte} :
    addedBy table data s = .ok ctes ↔
      (∃ statement, (Compiler.mk s {}).compileMutation (addTo table) data = .ok statement) ∧
        (Compiler.mk s {}).commands (addTo table) data = .ok ctes := by
  simp only [addedBy, bind_eq_ok, exists_and_right]

end Lateral
