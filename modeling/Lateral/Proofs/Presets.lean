import Lateral.Proofs.Assignments
import Lateral.Proofs.CompiledWrite

/-!
Presets at the root of a mutation. A preset is refused unless it names a column in some case, but
only the column's own spelling is looked up when rows are written, and only after the keys that the
root takes from rows below it.
-/

namespace Lateral
open Mutation Outcome

def Selection.preset? (s : Selection) (col : Column) : Option Preset :=
  s.presets.find? fun p => Text.lower p.column = Text.lower col.name

def Selection.exactPreset? (s : Selection) (col : Column) : Option Preset :=
  s.presets.find? fun p => p.column = col.name

def Write.parentKey? (above : RowKind) : Write → Option String
  | .rows r _ =>
    if r.kind = .insert && above.writesRow then
      (r.edge.filter Edge.isOneToOne).map fun e => e.right.column
    else none
  | .links g => if g.edge.isOneToOne then some g.edge.right.column else none

def Chain.keyColumns (chain : Chain) : List String :=
  chain.children.filterMap (Write.parentKey? chain.root.kind)

def Command.WritesFrom (command : Command) (col : Column) (source : Source) : Prop :=
  ⟨col, source⟩ ∈ command.columns ∧
    ∀ a ∈ command.columns, a.column.name = col.name → a.source = source

theorem writesFrom_iff {r : Rows} {root : Selection} {parent : Option Rows} {children : List Write}
    {command : Command} {col : Column} {source : Source}
    (columns : command.columns = r.assignments root parent children)
    (member : col ∈ r.table.columns) :
    command.WritesFrom col source ↔ r.source? root parent children col = some source := by
  unfold Command.WritesFrom
  rw [columns]
  constructor
  · rintro ⟨written, _⟩
    exact (mem_assignments.mp written).2
  · intro found
    refine ⟨mem_assignments.mpr ⟨member, found⟩, ?_⟩
    intro a written same
    have own := (mem_assignments.mp written).2
    rw [source?_congr same, found] at own
    exact (Option.some.inj own).symm

theorem Rows.fromChild_name (r : Rows) (w : Write) :
    (r.fromChild w).map Prod.fst = w.parentKey? r.kind := by
  cases w with
  | rows below children =>
    simp only [fromChild, Write.parentKey?]
    cases below.edge with
    | none => simp
    | some e =>
      by_cases one : e.isOneToOne = true
      · by_cases inserted : below.kind = .insert ∧ r.kind.writesRow = true
        · simp [Option.filter, one, inserted]
        · simp [one, inserted]
      · simp [Option.filter, one]
  | links g =>
    simp only [fromChild, Write.parentKey?]
    split
    · split <;> rfl
    · rfl

theorem Argument.ofText_injective {s t : String} (same : ofText s = ofText t) : s = t := by
  unfold ofText at same
  split at same <;> split at same
  · rename_i name first _ other second
    have tails : name = other := by
      simpa [String.ofList_inj] using same
    apply String.toList_inj.mp
    rw [first, second, tails]
  · cases same
  · cases same
  · exact Argument.fixed.inj same

section Root

variable {r : Rows} {root : Selection} {children : List Write} {col : Column}

theorem related_root : r.related none children = children.filterMap r.fromChild := by
  simp [Rows.related, Rows.fromParent]

theorem related_lookup_eq_none {name : String} :
    (r.related none children).lookup name = none ↔
      name ∉ children.filterMap (Write.parentKey? r.kind) := by
  have names : (children.filterMap r.fromChild).map Prod.fst =
      children.filterMap (Write.parentKey? r.kind) := by
    rw [List.map_filterMap]
    exact congrArg (List.filterMap · children) (funext r.fromChild_name)
  rw [related_root, ← names, List.lookup_eq_none_iff]
  constructor
  · intro others listed
    obtain ⟨entry, member, same⟩ := List.mem_map.mp listed
    have different := others entry member
    simp [same] at different
  · intro missing entry member
    have different : name ≠ entry.1 := by
      rintro rfl
      exact missing (List.mem_map_of_mem member)
    simpa using different

theorem key_source {name : String} {source : Source}
    (found : (r.related none children).lookup name = some source) :
    source ≠ .payload ∧ ∀ value, source ≠ .preset value := by
  rcases related_of_lookup found with above | ⟨w, _, given⟩
  · simp [Rows.fromParent] at above
  · cases given <;> simp

theorem root_source_preset_iff {value : String} :
    r.source? root none children col = some (.preset (.ofText value)) ↔
      col.name ∉ children.filterMap (Write.parentKey? r.kind) ∧
        (root.exactPreset? col).map Preset.value = some value := by
  rw [← related_lookup_eq_none]
  cases found : (r.related none children).lookup col.name with
  | some source =>
    simp only [Rows.source?, found, Option.some.injEq, reduceCtorEq, false_and, iff_false]
    exact (key_source found).2 _
  | none =>
    simp only [Rows.source?, found, Option.isNone_none, ↓reduceIte, Selection.sourceOf,
      Selection.exactPreset?, true_and]
    cases root.presets.find? fun p => p.column = col.name with
    | none =>
      simp only [Option.map_none, reduceCtorEq, iff_false]
      intro given
      split at given
      · cases payload_of_given given
      · cases given
    | some p =>
      simp only [Option.some.injEq, Source.preset.injEq, Option.map_some]
      constructor
      · exact Argument.ofText_injective
      · exact congrArg Argument.ofText

end Root

/-- Every column that a preset of the root names is written from the first such preset. -/
def WriteRun.ForcesPresets {c : Compiler} {r : Request} {given : Variables}
    (run : WriteRun c r given) : Prop :=
  ∃ root ∈ run.ctes, run.ctx.step run.chain.rootStep = .ok [root] ∧
    ∀ col ∈ run.ctx.table.columns, ∀ p, run.ctx.root.preset? col = some p →
      root.command.WritesFrom col (.preset (.ofText p.value))

theorem WriteRun.writesFrom_preset_iff {c : Compiler} {r : Request} {given : Variables}
    (run : WriteRun c r given) {root : Cte} (made : run.ctx.step run.chain.rootStep = .ok [root])
    {col : Column} (member : col ∈ run.ctx.table.columns) (value : String) :
    root.command.WritesFrom col (.preset (.ofText value)) ↔
      col.name ∉ run.chain.keyColumns ∧
        (run.ctx.root.exactPreset? col).map Preset.value = some value := by
  obtain ⟨_, _, table, _⟩ := build_root run.built
  obtain ⟨own, same, columns⟩ := Mutation.root_command made
  cases same
  rw [← table] at member
  rw [writesFrom_iff columns member, root_source_preset_iff, Chain.keyColumns]

theorem WriteRun.forcesPresets_iff {c : Compiler} {r : Request} {given : Variables}
    (run : WriteRun c r given) :
    run.ForcesPresets ↔ ∀ col ∈ run.ctx.table.columns, ∀ p, run.ctx.root.preset? col = some p →
      col.name ∉ run.chain.keyColumns ∧
        (run.ctx.root.exactPreset? col).map Preset.value = some p.value := by
  constructor
  · rintro ⟨root, _, made, forced⟩ col member p named
    exact (run.writesFrom_preset_iff made member p.value).mp (forced col member p named)
  · intro exactly
    obtain ⟨root, among, made, _⟩ := run.root_command
    refine ⟨root, among, made, ?_⟩
    intro col member p named
    exact (run.writesFrom_preset_iff made member p.value).mpr (exactly col member p named)

/-- In a mutation that compiles, the root writes a column from the first preset that names it just
when no row below gives the column a key, and the first preset spelled as the column is has the same
value. -/
theorem root_writes_preset_iff (c : Compiler) (r : Request) (given : Variables) (kind : RowKind)
    (statement : Statement) (writes : r.operation.rowKind? = some kind)
    (compiled : c.compileMutation r given = .ok statement) :
    ∃ run : WriteRun c r given, run.statement = statement ∧
      ∃ root ∈ run.ctes, run.ctx.step run.chain.rootStep = .ok [root] ∧
        ∀ col ∈ run.ctx.table.columns, ∀ p, run.ctx.root.preset? col = some p →
          (root.command.WritesFrom col (.preset (.ofText p.value)) ↔
            col.name ∉ run.chain.keyColumns ∧
              (run.ctx.root.exactPreset? col).map Preset.value = some p.value) := by
  obtain ⟨run, same⟩ := WriteRun.of_compiled writes compiled
  obtain ⟨root, among, made, _⟩ := run.root_command
  refine ⟨run, same, root, among, made, ?_⟩
  intro col member p _
  exact run.writesFrom_preset_iff made member p.value

def proofText : Column := { id := 1, name := "text", sqlType := "text" }

def proofAuthor : Column := { id := 2, name := "human_id", sqlType := "bigint" }

def proofTable : Table := .ofColumns "proofs" "proof" .table [proofText, proofAuthor]

def proofCompiler : Compiler where
  schema := {
    tables := ⟨[
      ("proof", proofTable),
      ("human", .ofColumns "humans" "human" .table
        [{ id := 1, name := "id", sqlType := "bigint", primaryKey := true }])]⟩
    edges := ⟨[
      (("human", "proof"),
        ⟨.oneToOne, ⟨"humans", "id", false⟩, ⟨"proofs", "human_id", false⟩⟩)]⟩ }

def proofRequest (presets : List Preset) : Request := .mutation .insert "data" [{
  table := "proofs"
  label := "proofs"
  fields := [.ofName "text"]
  presets := presets }]

def proofData : Variables := ⟨[("data", .obj [
  ("text", .str "by cases"),
  ("human", .obj [("connect", .obj [("id", .int 1)])])])]⟩

theorem proof_run {presets : List Preset}
    (run : WriteRun proofCompiler (proofRequest presets) proofData) :
    run.ctx.table = proofTable ∧ run.ctx.root.presets = presets ∧
      run.chain.keyColumns = ["human_id"] := by
  have found : proofCompiler.schema.table "proofs" = .ok proofTable := by decide +kernel
  obtain ⟨selected, same_table⟩ := run.root_eq rfl rfl found
  have keys : (Compiler.payload (proofRequest []) proofData >>= fun data =>
      (build proofCompiler.schema .insert proofTable data.2).map Chain.keyColumns) =
        .ok ["human_id"] := by
    decide +kernel
  obtain ⟨⟨name, value⟩, loaded, keys⟩ := bind_eq_ok.mp keys
  obtain ⟨chain, built, keys⟩ := map_eq_ok.mp keys
  refine ⟨same_table, ?_, ?_⟩
  · rw [selected]
  · rw [run.chain_eq rfl same_table loaded built, keys]

theorem proof_text_forced :
    ∃ statement, proofCompiler.compileMutation (proofRequest [⟨"text", "forced"⟩]) proofData =
        .ok statement ∧
      ∃ run : WriteRun proofCompiler (proofRequest [⟨"text", "forced"⟩]) proofData,
        run.statement = statement ∧ ∃ root ∈ run.ctes, proofText ∈ run.ctx.table.columns ∧
          root.command.WritesFrom proofText (.preset (.fixed "forced")) := by
  obtain ⟨first, compiled⟩ : ∃ run : WriteRun proofCompiler (proofRequest [⟨"text", "forced"⟩])
      proofData, _ := WriteRun.of_succeeds rfl (by decide +kernel)
  obtain ⟨run, same, root, among, _, exactly⟩ := root_writes_preset_iff proofCompiler
    (proofRequest [⟨"text", "forced"⟩]) proofData .insert first.statement rfl compiled
  obtain ⟨table, presets, keys⟩ := proof_run run
  have member : proofText ∈ run.ctx.table.columns := by
    rw [table]
    decide
  have named : run.ctx.root.preset? proofText = some ⟨"text", "forced"⟩ := by
    rw [Selection.preset?, presets]
    decide +kernel
  refine ⟨first.statement, compiled, run, same, root, among, member, ?_⟩
  refine (exactly proofText member _ named).mpr ⟨?_, ?_⟩
  · rw [keys]
    decide
  · rw [Selection.exactPreset?, presets]
    decide

/-- Another spelling of a preset lets the data in, and a row to connect comes before any preset. -/
theorem preset_not_forced :
    (∃ run : WriteRun proofCompiler (proofRequest [⟨"Text", "forced"⟩]) proofData,
      proofCompiler.compileMutation (proofRequest [⟨"Text", "forced"⟩]) proofData =
        .ok run.statement ∧ ¬ run.ForcesPresets) ∧
    ∃ run : WriteRun proofCompiler (proofRequest [⟨"human_id", "7"⟩]) proofData,
      proofCompiler.compileMutation (proofRequest [⟨"human_id", "7"⟩]) proofData =
        .ok run.statement ∧ ¬ run.ForcesPresets := by
  constructor
  · obtain ⟨run, compiled⟩ : ∃ run : WriteRun proofCompiler (proofRequest [⟨"Text", "forced"⟩])
        proofData, _ := WriteRun.of_succeeds rfl (by decide +kernel)
    obtain ⟨table, presets, _⟩ := proof_run run
    refine ⟨run, compiled, ?_⟩
    intro forced
    have named : run.ctx.root.preset? proofText = some ⟨"Text", "forced"⟩ := by
      rw [Selection.preset?, presets]
      decide +kernel
    obtain ⟨_, spelled⟩ := run.forcesPresets_iff.mp forced proofText (by rw [table]; decide) _ named
    rw [Selection.exactPreset?, presets] at spelled
    exact absurd spelled (by decide)
  · obtain ⟨run, compiled⟩ : ∃ run : WriteRun proofCompiler (proofRequest [⟨"human_id", "7"⟩])
        proofData, _ := WriteRun.of_succeeds rfl (by decide +kernel)
    obtain ⟨table, presets, keys⟩ := proof_run run
    refine ⟨run, compiled, ?_⟩
    intro forced
    have named : run.ctx.root.preset? proofAuthor = some ⟨"human_id", "7"⟩ := by
      rw [Selection.preset?, presets]
      decide +kernel
    obtain ⟨free, _⟩ := run.forcesPresets_iff.mp forced proofAuthor (by rw [table]; decide) _ named
    rw [keys] at free
    exact absurd free (by decide)

end Lateral
