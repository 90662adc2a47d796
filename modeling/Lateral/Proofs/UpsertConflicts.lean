import Lateral.Proofs.Assignments
import Lateral.Proofs.ColumnPositions
import Lateral.Proofs.CommandPhrases
import Lateral.Proofs.CompiledWrite
import Lateral.Proofs.Nodes
import Lateral.Proofs.Placement

/-!
What an upsert does about rows that are there already. They are found by the keys that the data
gives, or else by the primary key, and whatever else the upsert writes is written to them: a column
at the root is either a target of the conflict or taken over, wherever its value comes from. Without
a key to go by no upsert compiles.
-/

namespace Lateral
open Mutation Outcome

def Column.isKey (c : Column) : Bool := c.uniqueKey || c.primaryKey

def Assignment.isGivenKey (a : Assignment) : Bool := a.source = .payload && a.column.isKey

def Command.conflict? : Command → Option Conflict
  | .insert _ _ _ _ conflict => conflict
  | _ => none

namespace Conflict

/-- The targets are keys of a table, and all other columns that are written are taken over. -/
structure Covers (t : Table) (columns : List Assignment) (c : Conflict) : Prop where
  some_target : c.targets ≠ []
  keys : ∀ k ∈ c.targets, k ∈ t.columns ∧ k.isKey = true
  /-- The keys that the data gives come first, and the primary key only where it gives none. -/
  chosen : c.targets = (columns.filter Assignment.isGivenKey).map Assignment.column ∨
    (∀ a ∈ columns, a.isGivenKey = false) ∧ ∃ key, t.primary? = some key ∧ c.targets = [key]
  spared : ∀ k ∈ c.targets, ∀ u ∈ c.updates, u.name ≠ k.name
  assigned : ∀ a ∈ columns, (∀ k ∈ c.targets, a.column.name ≠ k.name) → a.column ∈ c.updates
  written : c.updates.Sublist (columns.map Assignment.column)

theorem Covers.updates_eq_nil_iff {t : Table} {columns : List Assignment} {c : Conflict}
    (covers : c.Covers t columns) :
    c.updates = [] ↔ ∀ a ∈ columns, ∃ k ∈ c.targets, a.column.name = k.name := by
  constructor
  · intro none a member
    by_contra other
    push Not at other
    have updated := covers.assigned a member other
    rw [none] at updated
    cases updated
  · intro all
    refine List.eq_nil_iff_forall_not_mem.mpr fun u updated => ?_
    obtain ⟨a, member, rfl⟩ := List.mem_map.mp (covers.written.subset updated)
    obtain ⟨k, target, same⟩ := all a member
    exact covers.spared k target _ updated same

theorem Covers.primary_of_unkeyed {t : Table} {columns : List Assignment} {c : Conflict}
    (covers : c.Covers t columns) (unkeyed : ∀ a ∈ columns, a.isGivenKey = false) :
    t.primary? ≠ none := by
  rcases covers.chosen with given | ⟨-, key, primary, -⟩
  · have none : columns.filter Assignment.isGivenKey = [] := by simpa using unkeyed
    rw [none] at given
    exact absurd given covers.some_target
  · rw [primary]
    exact Option.some_ne_none key

end Conflict

theorem insert_phrase (table : String) (columns : List Assignment) (data : Input) (blocked : Bool)
    (conflict : Conflict) :
    ∃ rows, (Command.insert table columns data blocked (some conflict)).phrase =
      [.words "INSERT INTO ", .label table, .words " ("] ++ columnsPhrase columns ++
        [.words ") SELECT "] ++ rows ++ conflict.phrase ++ [.words " RETURNING *"] := by
  refine ⟨valuesPhrase columns ++ [.words " FROM "] ++ data.phrase columns ++
    (if blocked then [.words " WHERE false"] else []), ?_⟩
  simp only [Command.phrase, Option.map_some, Option.getD_some, List.append_assoc]

section Targets

variable {ctx : Context} {columns : List Assignment} {targets : List Column} {c : Conflict}

theorem givenKeys_eq (columns : List Assignment) :
    (columns.filterMap fun a =>
      if a.source = .payload && (a.column.uniqueKey || a.column.primaryKey) then some a.column
      else none) =
      (columns.filter Assignment.isGivenKey).map Assignment.column := by
  rw [← List.filterMap_eq_map, List.filterMap_filter]
  rfl

theorem conflictTargets_made (run : ctx.conflictTargets columns = .ok targets) :
    targets ≠ [] ∧ (targets = (columns.filter Assignment.isGivenKey).map Assignment.column ∨
      (∀ a ∈ columns, a.isGivenKey = false) ∧
        ∃ key, ctx.table.primary? = some key ∧ targets = [key]) := by
  simp only [Context.conflictTargets, givenKeys_eq] at run
  split at run
  · rename_i none
    simp only [bind_eq_ok, pure_eq_ok] at run
    obtain ⟨key, found, rfl⟩ := run
    refine ⟨List.cons_ne_nil _ _, .inr ⟨?_, key, ?_, rfl⟩⟩
    · simpa using none
    · exact Table.primary_eq_ok.mp found
  · rename_i some_given
    cases run
    exact ⟨mt List.isEmpty_iff.mpr some_given, .inl rfl⟩

theorem conflict_made (run : ctx.conflict columns = .ok c) :
    ctx.conflictTargets columns = .ok c.targets ∧
      c.updates = (columns.map Assignment.column).filter fun u =>
        !c.targets.any fun target => target.name = u.name := by
  unfold Context.conflict at run
  obtain ⟨targets, found, run⟩ := bind_eq_ok.mp run
  split at run
  all_goals
    simp only [bind_eq_ok, pure_eq_ok] at run
    obtain ⟨_, -, rfl⟩ := run
    exact ⟨found, rfl⟩

theorem conflict_covers (run : ctx.conflict columns = .ok c)
    (own : ∀ a ∈ columns, a.column ∈ ctx.table.columns) : c.Covers ctx.table columns := by
  obtain ⟨found, updates⟩ := conflict_made run
  obtain ⟨some_target, chosen⟩ := conflictTargets_made found
  have kept {u : Column} : u ∈ c.updates ↔
      u ∈ columns.map Assignment.column ∧ ∀ k ∈ c.targets, u.name ≠ k.name := by
    rw [updates, List.mem_filter]
    refine and_congr_right fun _ => ?_
    simp only [Bool.not_eq_true', List.any_eq_false, decide_eq_true_eq]
    exact forall₂_congr fun k _ => ne_comm
  refine ⟨some_target, ?_, chosen, ?_, ?_, ?_⟩
  · intro k target
    rcases chosen with given | ⟨-, key, primary, alone⟩
    · rw [given] at target
      obtain ⟨a, member, rfl⟩ := List.mem_map.mp target
      obtain ⟨among, key⟩ := List.mem_filter.mp member
      exact ⟨own a among, (Bool.and_eq_true_iff.mp key).2⟩
    · rw [alone, List.mem_singleton] at target
      subst target
      refine ⟨Table.at?_mem primary, ?_⟩
      simp [Column.isKey, Table.primary?_isKey primary]
  · intro k target u updated
    exact (kept.mp updated).2 k target
  · intro a member other
    exact kept.mpr ⟨List.mem_map_of_mem member, other⟩
  · rw [updates]
    exact List.filter_sublist

end Targets

theorem step_conflict {ctx : Context} {step : Step} {own : List Cte} {cte : Cte}
    {conflict : Conflict} (made : ctx.step step = .ok own) (inside : cte ∈ own)
    (found : cte.command.conflict? = some conflict) :
    ∃ r children, step = .rows r none children ∧
      ctx.conflict (r.assignments ctx.root none children) = .ok conflict ∧
      cte = ctx.insertion r none children (some conflict) := by
  cases step_made made with
  | @insert r parent children settled _ _ run _ =>
    cases List.mem_singleton.mp inside
    obtain rfl : settled = some conflict := found
    cases parent with
    | some p => cases run
    | none =>
      refine ⟨r, children, rfl, ?_, rfl⟩
      split at run
      · obtain ⟨_, decided, ⟨⟩⟩ := map_eq_ok.mp run
        exact decided
      · cases run
  | insertAcross | connectAcross | disconnectAcross =>
    rcases List.mem_pair.mp inside with rfl | rfl <;> cases found
  | update | read | attach | detach | pick | union =>
    cases List.mem_singleton.mp inside
    cases found

namespace WriteRun

variable {c : Compiler} {r : Request} {given : Variables} (run : WriteRun c r given)

theorem upsert_root (upserts : run.kind = .upsert) :
    ∃ conflict, run.ctx.conflict
        (run.chain.root.assignments run.ctx.root none run.chain.children) = .ok conflict ∧
      run.ctx.insertion run.chain.root none run.chain.children (some conflict) ∈ run.ctes := by
  obtain ⟨root, among, made, -⟩ := run.root_command
  obtain ⟨-, kind, -⟩ := build_root run.built
  rw [upserts] at kind
  generalize listed : [root] = own at made
  cases step_made made with
  | insert _ _ settled _ =>
    rw [if_pos (by simp [kind]), map_eq_ok] at settled
    obtain ⟨conflict, found, rfl⟩ := settled
    cases listed
    exact ⟨conflict, found, among⟩
  | update updates | read updates =>
    rw [kind] at updates
    cases updates

/-- Of the commands, only the root's own does anything about rows that are there. -/
theorem conflict_root {cte : Cte} (member : cte ∈ run.ctes) {conflict : Conflict}
    (found : cte.command.conflict? = some conflict) :
    run.ctx.conflict (run.chain.root.assignments run.ctx.root none run.chain.children) =
        .ok conflict ∧
      cte = run.ctx.insertion run.chain.root none run.chain.children (some conflict) := by
  rcases mem_ctes run.commanded member with
    rfl | ⟨step, listed, own, made, inside⟩ | ⟨junction, rfl⟩
  · cases found
  · obtain ⟨rows, children, rfl, decided, rfl⟩ := step_conflict made inside found
    rcases chain_step_stands listed with root | below
    · cases root
      exact ⟨decided, rfl⟩
    · cases below
  · cases found

theorem conflict_covers {conflict : Conflict} (decided : run.ctx.conflict
      (run.chain.root.assignments run.ctx.root none run.chain.children) = .ok conflict) :
    conflict.Covers run.ctx.table
      (run.chain.root.assignments run.ctx.root none run.chain.children) := by
  obtain ⟨-, -, table, -⟩ := build_root run.built
  refine Lateral.conflict_covers decided fun a member => ?_
  rw [← table]
  exact (mem_assignments.mp member).1

end WriteRun

/-- An upsert that compiles says at its root, and nowhere else, what happens to rows that are there:
its targets are keys of the table, and all else that it writes is taken over. In its text nothing is
done about such rows exactly where nothing is left to take over. Where the data gives no key and the
table has no primary one, no upsert compiles. -/
theorem upsert_conflict_covered (c : Compiler) (r : Request) (given : Variables)
    (upserts : r.operation = .upsert) :
    (∀ statement, c.compileMutation r given = .ok statement →
      ∃ run : WriteRun c r given, run.statement = statement ∧ ∃ root ∈ run.ctes, ∃ conflict,
        root.command.conflict? = some conflict ∧
        (∀ cte ∈ run.ctes, cte.command.conflict? ≠ none → cte = root) ∧
        root.command.columns = run.chain.root.assignments run.ctx.root none run.chain.children ∧
        conflict.Covers run.ctx.table root.command.columns ∧
        (conflict.updates = [] ↔
          ∀ a ∈ root.command.columns, ∃ k ∈ conflict.targets, a.column.name = k.name) ∧
        (∀ b, root.command.sql.fill b = root.command.phrase.text b) ∧
        ∃ rows, root.command.phrase =
          [.words "INSERT INTO ", .label run.ctx.table.name, .words " ("] ++
            columnsPhrase root.command.columns ++ [.words ") SELECT "] ++ rows ++
            conflict.phrase ++ [.words " RETURNING *"]) ∧
    ∀ rootId ctx name value chain, c.mutationRoot r = .ok (rootId, ctx) →
      Compiler.payload r given = .ok (name, value) →
      build c.schema .upsert ctx.table value = .ok chain →
      (∀ a ∈ chain.root.assignments ctx.root none chain.children, a.isGivenKey = false) →
      ctx.table.primary? = none → ∃ e, c.compileMutation r given = .error e := by
  have writes : r.operation.rowKind? = some .upsert := by rw [upserts]; rfl
  constructor
  · intro statement compiled
    obtain ⟨run, same⟩ := WriteRun.of_compiled writes compiled
    have kind : run.kind = .upsert := Option.some.inj (run.writes.symm.trans writes)
    obtain ⟨-, -, table, -⟩ := build_root run.built
    obtain ⟨conflict, decided, among⟩ := run.upsert_root kind
    have covers := run.conflict_covers decided
    refine ⟨run, same, _, among, conflict, rfl, ?_, rfl, covers, covers.updates_eq_nil_iff,
      fun b => (Command.text_phrase _).symm, ?_⟩
    · intro cte member settles
      obtain ⟨other, found⟩ := Option.ne_none_iff_exists'.mp settles
      obtain ⟨again, rfl⟩ := run.conflict_root member found
      rw [Except.ok.inj (decided.symm.trans again)]
    · rw [← table]
      exact insert_phrase ..
  · intro rootId ctx name value chain rooted loaded built unkeyed unmarked
    cases compiled : c.compileMutation r given with
    | error e => exact ⟨e, rfl⟩
    | ok statement =>
      obtain ⟨run, -⟩ := WriteRun.of_compiled writes compiled
      obtain ⟨-, own⟩ := Prod.mk.inj (Except.ok.inj (run.rooted.symm.trans rooted))
      have chained := run.chain_eq writes (congrArg Context.table own) loaded built
      obtain ⟨conflict, decided, -⟩ :=
        run.upsert_root (Option.some.inj (run.writes.symm.trans writes))
      have covers := run.conflict_covers decided
      rw [own, chained] at covers
      exact absurd unmarked (covers.primary_of_unkeyed unkeyed)

/-- Thieves have a tag that tells them apart, and no primary key. -/
def thiefTable : Table := .ofColumns "thieves" "thief" .table
  [{ id := 1, name := "tag", sqlType := "text", uniqueKey := true },
    { id := 2, name := "name", sqlType := "text" },
    { id := 3, name := "human_id", sqlType := "bigint" }]

def thiefCompiler : Compiler where
  schema := {
    tables := ⟨[
      ("thief", thiefTable),
      ("human", .ofColumns "humans" "human" .table
        [{ id := 1, name := "id", sqlType := "bigint", primaryKey := true }])]⟩
    edges := ⟨[
      (("human", "thief"),
        ⟨.oneToOne, ⟨"humans", "id", false⟩, ⟨"thieves", "human_id", false⟩⟩)]⟩ }

def thiefRequest (column : String) : Request := .mutation .upsert "data" [{
  table := "thieves"
  label := "thieves"
  fields := [.ofName "name"]
  presets := [⟨column, "unknown"⟩] }]

def thiefData (fields : List (String × Json)) : Variables := ⟨[("data", .obj (fields ++ [
  ("human", .obj [("connect", .obj [("id", .int 1)])])]))]⟩

/-- The tag that the data gives is the target, and a preset and a related column are taken over. A
tag that is preset is no target, and then there is none. -/
theorem thief_conflict_covered :
    (∃ run : WriteRun thiefCompiler (thiefRequest "name") (thiefData [("tag", .str "red")]),
      thiefCompiler.compileMutation (thiefRequest "name") (thiefData [("tag", .str "red")]) =
        .ok run.statement ∧
      ∃ root ∈ run.ctes, ∃ conflict, root.command.conflict? = some conflict ∧
        conflict.Covers run.ctx.table root.command.columns ∧
        conflict.targets.map Column.name = ["tag"] ∧
        conflict.updates.map Column.name = ["name", "human_id"]) ∧
    ∃ e, thiefCompiler.compileMutation (thiefRequest "tag") (thiefData []) = .error e := by
  constructor
  · obtain ⟨first, compiled⟩ : ∃ run : WriteRun thiefCompiler (thiefRequest "name")
        (thiefData [("tag", .str "red")]), _ := WriteRun.of_succeeds rfl (by decide +kernel)
    obtain ⟨run, same, root, among, conflict, found, -, -, covers, -⟩ :=
      (upsert_conflict_covered thiefCompiler (thiefRequest "name")
        (thiefData [("tag", .str "red")]) rfl).1 first.statement compiled
    have decided : ((thiefCompiler.commands (thiefRequest "name")
        (thiefData [("tag", .str "red")])).map fun ctes =>
          (ctes.filterMap fun cte => cte.command.conflict?).map fun conflict =>
            (conflict.targets.map Column.name, conflict.updates.map Column.name)) =
        .ok [(["tag"], ["name", "human_id"])] := by
      decide +kernel
    rw [run.commands_eq] at decided
    have own : conflict ∈ run.ctes.filterMap fun cte => cte.command.conflict? :=
      List.mem_filterMap.mpr ⟨root, among, found⟩
    have listed : (conflict.targets.map Column.name, conflict.updates.map Column.name) ∈
        [(["tag"], ["name", "human_id"])] := by
      rw [← Except.ok.inj decided]
      exact List.mem_map_of_mem own
    exact ⟨run, same ▸ compiled, root, among, conflict, found, covers,
      Prod.mk.inj (List.mem_singleton.mp listed)⟩
  · have facts : (do
        let root ← thiefCompiler.mutationRoot (thiefRequest "tag")
        let data ← Compiler.payload (thiefRequest "tag") (thiefData [])
        let chain ← build thiefCompiler.schema .upsert root.2.table data.2
        return (root.2.table.primary?, (chain.root.assignments root.2.root none chain.children).map
          Assignment.isGivenKey)) = Except.ok (none, [false, false]) := by
      decide +kernel
    obtain ⟨⟨rootId, ctx⟩, rooted, facts⟩ := bind_eq_ok.mp facts
    obtain ⟨⟨name, value⟩, loaded, facts⟩ := bind_eq_ok.mp facts
    obtain ⟨chain, built, facts⟩ := bind_eq_ok.mp facts
    obtain ⟨unmarked, unkeyed⟩ := Prod.mk.inj (pure_eq_ok.mp facts)
    refine (upsert_conflict_covered thiefCompiler (thiefRequest "tag") (thiefData []) rfl).2
      rootId ctx name value chain rooted loaded built (fun a member => ?_) unmarked
    have given := List.mem_map_of_mem (f := Assignment.isGivenKey) member
    rw [unkeyed] at given
    simpa using given

end Lateral
