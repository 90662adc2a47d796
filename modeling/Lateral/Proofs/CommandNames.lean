import Lateral.Proofs.Numbering
import Lateral.Proofs.WriteTargets

/-!
The names of a mutation's commands. Rows, groups of links and junctions go by the names of their
tables, and no two of these clash. A link, and the rows of a junction that a step writes, go by a
name with the number of the step, and no two of these clash either. But nothing keeps a table from
being called as one of the numbered names is, or as the data is.
-/

namespace Lateral
open Mutation Outcome

namespace Sql

theorem numbered_ne_input (base : String) (n : ℕ) : numbered base n ≠ Input.name := by
  intro same
  have digits := numbered_digits base n
  rw [same] at digits
  have none : (Input.name.toList.reverse.takeWhile Char.isDigit).reverse = [] := by decide
  rw [none] at digits
  exact Nat.toDigits_ne_nil digits.symm

end Sql

def Step.Formed : Step → Prop
  | .rows r none _ => r.edge = none
  | .rows r (some _) _ => r.kind ≠ .upsert
  | .link .. | .union _ => True

theorem chain_step_formed {s : Schema} {kind : RowKind} {t : Table} {value : Json} {chain : Chain}
    (built : build s kind t value = .ok chain) {step : Step} (member : step ∈ chain.steps) :
    step.Formed := by
  rcases chain_step_stands member with rfl | stands
  · obtain ⟨-, -, -, -, none, -⟩ := build_root built
    exact none
  · cases stands with
    | link | union => trivial
    | @rows r p children hangs =>
      have kind := (build_found built hangs).kind r children rfl
      intro upsert
      rw [upsert] at kind
      cases above : p.kind <;> simp [above, childKind] at kind

section Inserted

variable {r : Rows} {children : List Write}

theorem unrelated_of_direct {parent : Option Rows}
    (direct : ∀ e p, r.edge = some e → parent = some p → e.junction? = none)
    (formed : (Step.rows r parent children).Formed) : r.edge.bind Edge.junction? = none := by
  cases edge : r.edge with
  | none => rfl
  | some e =>
    cases parent with
    | none =>
      rw [Step.Formed, edge] at formed
      cases formed
    | some p => exact direct e p edge rfl

theorem insert_of_formed {p : Rows} (writes : r.kind.writesRow = true)
    (formed : (Step.rows r (some p) children).Formed) : r.kind = .insert := by
  cases kind : r.kind with
  | insert => rfl
  | upsert => exact absurd kind formed
  | update => simp [kind, RowKind.writesRow] at writes

end Inserted

def Step.linkName? : Step → Option String
  | .link g _ l => some (g.cteName l)
  | .rows .. | .union _ => none

def Step.numberedNames (step : Step) : List String :=
  step.linkName?.toList ++ ((JunctionWrite.ofStep? step).map JunctionWrite.cteName).toList

theorem step_command_names {ctx : Context} {step : Step} {ctes : List Cte}
    (made : StepMade ctx step ctes) (formed : step.Formed) :
    ctes.map Cte.name = (step.ownTable?.map Table.name).toList ++ step.numberedNames := by
  cases made with
  | insert writes filled settled direct =>
    simp [Step.numberedNames, Step.linkName?, Step.ownTable?, JunctionWrite.ofStep?,
      unrelated_of_direct direct formed, Context.insertion]
  | insertAcross writes filled edge through =>
    simp [Step.numberedNames, Step.linkName?, Step.ownTable?, JunctionWrite.ofStep?,
      insert_of_formed writes formed, edge, through, Context.insertion, JunctionWrite.cteName]
  | update updates | read updates =>
    simp [Step.numberedNames, Step.linkName?, Step.ownTable?, JunctionWrite.ofStep?, updates]
  | attach kind | detach kind | pick kind =>
    simp [Step.numberedNames, Step.linkName?, Step.ownTable?, JunctionWrite.ofStep?, Edge.junction?,
      kind]
  | connectAcross kind | disconnectAcross kind =>
    simp [Step.numberedNames, Step.linkName?, Step.ownTable?, JunctionWrite.ofStep?,
      Edge.junction?_of_through kind, JunctionWrite.cteName]
  | union g => simp [Step.numberedNames, Step.linkName?, Step.ownTable?, JunctionWrite.ofStep?]

namespace Chain

def junctionNames (chain : Chain) : List String :=
  distinct ((junctionWrites chain.steps).map fun w => w.junction.table)

def tableNames (chain : Chain) : List String :=
  chain.tree.tables.map Table.name ++ chain.junctionNames

def numberedNames (chain : Chain) : List String := chain.steps.flatMap Step.numberedNames

end Chain

section Listed

variable {ctx : Context} {name : String} {chain : Chain} {ctes : List Cte}

theorem steps_command_names {steps : List Step} {rows : List (List Cte)}
    (each : steps.mapM ctx.step = .ok rows) (formed : ∀ step ∈ steps, step.Formed) :
    rows.flatten.map Cte.name =
      steps.flatMap fun step => (step.ownTable?.map Table.name).toList ++ step.numberedNames := by
  replace each := mapM_eq_ok.mp each
  induction each with
  | nil => rfl
  | cons first others ih =>
    rw [List.flatten_cons, List.map_append, List.flatMap_cons,
      ih fun step member => formed step (List.mem_cons_of_mem _ member),
      step_command_names (step_made first) (formed _ (List.mem_cons_self ..))]

/-- A junction is put together under its own name, which is that of no step's table. -/
theorem settleAll_names {steps : List Step} {junctions : List Cte}
    (settled : settleAll steps = .ok junctions) :
    junctions.map Cte.name = distinct ((junctionWrites steps).map fun w => w.junction.table) ∧
      ∀ junction ∈ distinct ((junctionWrites steps).map fun w => w.junction.table),
        ∀ step ∈ steps, step.table.name ≠ junction := by
  replace settled := mapM_eq_ok.mp settled
  generalize distinct ((junctionWrites steps).map fun w => w.junction.table) = names at settled
  induction settled with
  | nil => exact ⟨rfl, List.forall_mem_nil _⟩
  | cons first others ih =>
    obtain ⟨named, free⟩ := ih
    split at first
    · cases first
    · rename_i unused
      cases first
      refine ⟨congrArg _ named, List.forall_mem_cons.mpr ⟨?_, free⟩⟩
      intro step member same
      exact unused (List.any_eq_true.mpr ⟨step, member, decide_eq_true same⟩)

theorem ctes_names_perm (formed : ∀ step ∈ chain.steps, step.Formed)
    (commanded : ctx.ctes name chain = .ok ctes) :
    (ctes.map Cte.name).Perm (Input.name :: (chain.tableNames ++ chain.numberedNames)) := by
  simp only [Context.ctes, bind_eq_ok, pure_eq_ok] at commanded
  obtain ⟨rows, each, junctions, settled, rfl⟩ := commanded
  have own : (chain.steps.flatMap fun step => (step.ownTable?.map Table.name).toList).Perm
      (chain.tree.tables.map Table.name) := by
    have tables := (chain_tables_perm chain).map Table.name
    rwa [List.map_filterMap, List.filterMap_eq_flatMap_toList] at tables
  rw [List.map_cons, List.map_append, steps_command_names each formed, (settleAll_names settled).1]
  refine .cons _ ?_
  calc
    List.Perm _ (((chain.steps.flatMap fun step => (step.ownTable?.map Table.name).toList) ++
        chain.numberedNames) ++ chain.junctionNames) :=
      (List.flatMap_append_perm _ _ _).symm.append_right _
    List.Perm _ ((chain.tree.tables.map Table.name ++ chain.numberedNames) ++
        chain.junctionNames) :=
      (own.append_right _).append_right _
    List.Perm _ (chain.tableNames ++ chain.numberedNames) := by
      rw [Chain.tableNames, List.append_assoc, List.append_assoc]
      exact List.perm_append_comm.append_left _

theorem junctionNames_free (commanded : ctx.ctes name chain = .ok ctes) :
    ∀ junction ∈ chain.junctionNames, ∀ step ∈ chain.steps, step.table.name ≠ junction := by
  simp only [Context.ctes, bind_eq_ok, pure_eq_ok] at commanded
  obtain ⟨-, -, junctions, settled, -⟩ := commanded
  exact (settleAll_names settled).2

theorem mem_junctionNames {junction : String} :
    junction ∈ chain.junctionNames ↔
      ∃ step ∈ chain.steps, ∃ w, JunctionWrite.ofStep? step = some w ∧
        w.junction.table = junction := by
  have writes (w : JunctionWrite) : w ∈ junctionWrites chain.steps ↔
      ∃ step ∈ chain.steps, JunctionWrite.ofStep? step = some w :=
    (sortBy_perm _ _).mem_iff.trans List.mem_filterMap
  rw [Chain.junctionNames, mem_distinct, List.mem_map]
  constructor
  · rintro ⟨w, written, same⟩
    obtain ⟨step, member, own⟩ := (writes w).mp written
    exact ⟨step, member, w, own, same⟩
  · rintro ⟨step, member, w, own, same⟩
    exact ⟨w, (writes w).mpr ⟨step, member, own⟩, same⟩

theorem linkName_made {step : Step} {named : String} (own : step.linkName? = some named) :
    named = Sql.numbered step.table.name step.id := by
  cases step with
  | rows | union => cases own
  | link g owner l =>
    cases own
    rfl

theorem junctionWrite_id {step : Step} {w : JunctionWrite}
    (made : JunctionWrite.ofStep? step = some w) : w.id = step.id := by
  cases step with
  | rows r parent children =>
    simp only [JunctionWrite.ofStep?, Option.ite_none_right_eq_some, Option.map_eq_some_iff] at made
    obtain ⟨-, j, -, rfl⟩ := made
    rfl
  | link g owner l =>
    obtain ⟨j, -, rfl⟩ := Option.map_eq_some_iff.mp made
    rfl
  | union => cases made

theorem mem_numberedNames {step : Step} {named : String} (member : named ∈ step.numberedNames) :
    ∃ base, named = Sql.numbered base step.id ∧ (base = step.table.name ∨
      ∃ w, JunctionWrite.ofStep? step = some w ∧ w.junction.table = base) := by
  rcases List.mem_append.mp member with own | crossing
  · exact ⟨_, linkName_made (Option.mem_toList.mp own), Or.inl rfl⟩
  · obtain ⟨w, made, rfl⟩ := Option.map_eq_some_iff.mp (Option.mem_toList.mp crossing)
    refine ⟨w.junction.table, ?_, Or.inr ⟨w, made, rfl⟩⟩
    rw [← junctionWrite_id made]
    rfl

theorem step_numberedNames_nodup {step : Step}
    (apart : ∀ w, JunctionWrite.ofStep? step = some w → step.table.name ≠ w.junction.table) :
    step.numberedNames.Nodup := by
  refine List.nodup_append.mpr ⟨Option.toList_nodup _, Option.toList_nodup _, ?_⟩
  intro named own crossing among same
  obtain ⟨w, made, rfl⟩ := Option.map_eq_some_iff.mp (Option.mem_toList.mp among)
  rw [linkName_made (Option.mem_toList.mp own)] at same
  exact apart w made (Sql.numbered_injective same).1

theorem input_not_mem_numberedNames (chain : Chain) : Input.name ∉ chain.numberedNames := by
  intro member
  obtain ⟨step, -, own⟩ := List.mem_flatMap.mp member
  obtain ⟨base, same, -⟩ := mem_numberedNames own
  exact Sql.numbered_ne_input base step.id same.symm

end Listed

section Families

variable {s : Schema} {kind : RowKind} {t : Table} {value : Json} {chain : Chain}
  (built : build s kind t value = .ok chain)
include built

theorem numberedNames_nodup
    (free : ∀ junction ∈ chain.junctionNames, ∀ step ∈ chain.steps, step.table.name ≠ junction) :
    chain.numberedNames.Nodup := by
  refine List.nodup_flatMap.mpr ⟨?_, ?_⟩
  · intro step member
    refine step_numberedNames_nodup fun w made => ?_
    exact free _ (mem_junctionNames.mpr ⟨step, member, w, made, rfl⟩) step member
  · have ids : (chain.steps.map Step.id).Nodup :=
      ((chain_steps_ids chain).trans (build_ids built)).nodup_iff.mpr List.nodup_range
    refine (List.pairwise_map.mp ids).imp ?_
    intro first second apart named own other
    obtain ⟨base, rfl, -⟩ := mem_numberedNames own
    obtain ⟨base', same, -⟩ := mem_numberedNames other
    exact apart (Sql.numbered_injective same).2

theorem tableNames_nodup {catalog : Catalog} {aliases : Dict String (List String)}
    {inflector : Inflector} (schema : Schema.ofCatalog catalog aliases inflector = .ok s)
    (root : s.tables.get? t.key = some t)
    (free : ∀ junction ∈ chain.junctionNames, ∀ step ∈ chain.steps, step.table.name ≠ junction) :
    chain.tableNames.Nodup := by
  -- a table's key is a function of its name, so that equal names would mean equal keys
  have keys : (chain.tree.tables.map Table.key) =
      (chain.tree.tables.map Table.name).map inflector.canonical := by
    rw [List.map_map]
    refine List.map_congr_left fun u member => ?_
    have stored := tables_stored schema built root u member
    rw [Function.comp_apply, (Schema.stored_key schema stored).2]
  have distinctKeys := build_keys built
  rw [keys] at distinctKeys
  have distinctNames := List.Nodup.of_map inflector.canonical distinctKeys
  refine List.nodup_append.mpr ⟨distinctNames, distinct_nodup _, ?_⟩
  intro named own junction among same
  obtain ⟨u, member, rfl⟩ := List.mem_map.mp own
  rw [← (chain_tables_perm chain).mem_iff, List.mem_filterMap] at member
  obtain ⟨step, listed, table⟩ := member
  refine free junction among step listed ?_
  rw [← same]
  cases step with
  | rows | union =>
    cases table
    rfl
  | link => cases table

end Families

section Registered

variable {s : Schema} {catalog : Catalog} {aliases : Dict String (List String)}
  {inflector : Inflector} (schema : Schema.ofCatalog catalog aliases inflector = .ok s)
  {kind : RowKind} {t : Table} {value : Json} {chain : Chain}
  (built : build s kind t value = .ok chain) (root : s.tables.get? t.key = some t)
include schema built root

theorem junctionName_registered {junction : String} (member : junction ∈ chain.junctionNames) :
    ∃ u, s.Registers junction u := by
  obtain ⟨step, listed, w, made, rfl⟩ := mem_junctionNames.mp member
  have follows : ∃ e, step.edge? = some e ∧ e.junction? = some w.junction := by
    cases step with
    | rows r parent children =>
      simp only [JunctionWrite.ofStep?, Option.ite_none_right_eq_some, Option.map_eq_some_iff,
        Option.bind_eq_some_iff] at made
      obtain ⟨-, j, ⟨e, edge, through⟩, rfl⟩ := made
      exact ⟨e, edge, through⟩
    | link g owner l =>
      obtain ⟨j, through, rfl⟩ := Option.map_eq_some_iff.mp made
      exact ⟨g.edge, rfl, through⟩
    | union => cases made
  obtain ⟨e, edge, through⟩ := follows
  obtain ⟨keys, stored⟩ := step_edge_stored schema built root listed edge
  obtain ⟨u, registered, -⟩ := Schema.junction_registered schema stored through
  exact ⟨u, registered⟩

theorem tableName_registered {name : String} (member : name ∈ chain.tableNames) :
    ∃ u, s.Registers name u := by
  rcases List.mem_append.mp member with own | junction
  · obtain ⟨u, among, rfl⟩ := List.mem_map.mp own
    exact ⟨u, tables_stored schema built root u among, rfl⟩
  · exact junctionName_registered schema built root junction

theorem numberedName_registered {name : String} (member : name ∈ chain.numberedNames) :
    ∃ u n, s.tables.get? u.key = some u ∧ name = Sql.numbered u.name n := by
  obtain ⟨step, listed, own⟩ := List.mem_flatMap.mp member
  obtain ⟨base, rfl, rfl | ⟨w, made, rfl⟩⟩ := mem_numberedNames own
  · exact ⟨step.table, step.id, tables_stored schema built root _ (step_table_mem listed), rfl⟩
  · have junction := mem_junctionNames.mpr ⟨step, listed, w, made, rfl⟩
    obtain ⟨u, stored, named⟩ := junctionName_registered schema built root junction
    exact ⟨u, step.id, stored, by rw [named]⟩

end Registered

theorem families_nodup_iff {data : String} {tables numbered : List String}
    (first : tables.Nodup) (second : numbered.Nodup) (unnumbered : data ∉ numbered) :
    (data :: (tables ++ numbered)).Nodup ↔ ∀ name ∈ tables, name ≠ data ∧ name ∉ numbered := by
  rw [List.nodup_cons, List.mem_append, List.nodup_append']
  constructor
  · rintro ⟨fresh, -, -, apart⟩ name member
    refine ⟨?_, fun clash => apart member clash⟩
    rintro rfl
    exact fresh (Or.inl member)
  · intro apart
    refine ⟨?_, first, second, fun name member => (apart name member).2⟩
    rintro (member | member)
    · exact (apart data member).1 rfl
    · exact unnumbered member

/-- No table is called as the data is, or as a table with a number. -/
def Schema.NamesApart (s : Schema) : Prop :=
  ∀ t, s.tables.get? t.key = some t → t.name ≠ Input.name ∧
    ∀ u, s.tables.get? u.key = some u → ∀ n, t.name ≠ Sql.numbered u.name n

/-- The commands of a mutation that compiles are the data, those named after tables and the numbered
ones. Two have the same name just when a table is called as the data or as a numbered command; so
none have where tables are named apart. -/
theorem command_names_nodup_iff {c : Compiler} {catalog : Catalog}
    {aliases : Dict String (List String)} {inflector : Inflector}
    (schema : Schema.ofCatalog catalog aliases inflector = .ok c.schema) (r : Request)
    (given : Variables) (statement : Statement) (kind : RowKind)
    (writes : r.operation.rowKind? = some kind)
    (compiled : c.compileMutation r given = .ok statement) :
    ∃ run : WriteRun c r given, run.statement = statement ∧
      (run.ctes.map Cte.name).Perm
        (Input.name :: (run.chain.tableNames ++ run.chain.numberedNames)) ∧
      ((run.ctes.map Cte.name).Nodup ↔ ∀ name ∈ run.chain.tableNames,
        name ≠ Input.name ∧ name ∉ run.chain.numberedNames) ∧
      (c.schema.NamesApart → (run.ctes.map Cte.name).Nodup) := by
  obtain ⟨run, same⟩ := WriteRun.of_compiled writes compiled
  have root := (root_registered schema (Operation.isMutation_of_rowKind? writes) run.rooted).1
  have names := ctes_names_perm (fun step => chain_step_formed run.built) run.commanded
  have free := junctionNames_free run.commanded
  have tables := tableNames_nodup run.built schema root free
  have numbered := numberedNames_nodup run.built free
  have clashes := names.nodup_iff.trans
    (families_nodup_iff tables numbered (input_not_mem_numberedNames run.chain))
  refine ⟨run, same, names, clashes, ?_⟩
  intro apart
  refine clashes.mpr fun name member => ?_
  obtain ⟨u, stored, rfl⟩ := tableName_registered schema run.built root member
  refine ⟨(apart u stored).1, fun clash => ?_⟩
  obtain ⟨v, n, other, same⟩ := numberedName_registered schema run.built root clash
  exact (apart u stored).2 v other n same

def subjectCatalog (subjects : String) : Catalog where
  tables := [{ name := "quizzes" }, { name := "humans" }, { name := subjects }]
  columns := [
    [{ id := 1, name := "human_id", sqlType := "bigint", target := "humans", targetIds := [1] },
      { id := 2, name := "subject_id", sqlType := "bigint", target := subjects,
        targetIds := [1] }],
    [{ id := 1, name := "id", sqlType := "bigint", primaryKey := true }],
    [{ id := 1, name := "id", sqlType := "bigint", primaryKey := true }]]

def quizOn (subjects : String) : Variables := ⟨[("data", .obj [
  ("humans", .obj [("connect", .obj [("id", .int 1)])]), (subjects, .obj [("id", .int 2)])])]⟩

theorem quiz_on_volcano_named_apart : ∃ (c : Compiler) (statement : Statement),
    Schema.ofCatalog (subjectCatalog "volcanoes") {} = .ok c.schema ∧
    c.compileMutation (addTo "quizzes") (quizOn "volcanoes") = .ok statement ∧
    ∃ run : WriteRun c (addTo "quizzes") (quizOn "volcanoes"),
      run.statement = statement ∧
      run.ctes.map Cte.name = ["_sg_input", "humans_3", "humans", "volcanoes", "quizzes"] ∧
      ∀ name ∈ run.chain.tableNames, name ≠ Input.name ∧ name ∉ run.chain.numberedNames := by
  have found : (Schema.ofCatalog (subjectCatalog "volcanoes") {} >>= fun s =>
      (addedBy "quizzes" (quizOn "volcanoes") s).map (List.map Cte.name)) =
      .ok ["_sg_input", "humans_3", "humans", "volcanoes", "quizzes"] := by
    decide +kernel
  obtain ⟨s, built, found⟩ := bind_eq_ok.mp found
  obtain ⟨ctes, added, names⟩ := map_eq_ok.mp found
  obtain ⟨⟨statement, compiled⟩, commanded⟩ := addedBy_eq_ok.mp added
  obtain ⟨run, same, -, apart, -⟩ := command_names_nodup_iff (c := ⟨s, {}⟩) built (addTo "quizzes")
    (quizOn "volcanoes") statement .insert rfl compiled
  have listed := run.commands_eq
  rw [commanded] at listed
  cases listed
  refine ⟨⟨s, {}⟩, statement, built, compiled, run, same, names, apart.mp ?_⟩
  rw [names]
  decide

/-- A table may be called as a link is numbered, and two commands then have its name. -/
theorem quiz_on_numbered_clashes : ∃ (c : Compiler) (statement : Statement) (ctes : List Cte),
    Schema.ofCatalog (subjectCatalog "humans_3") {} = .ok c.schema ∧
    c.compileMutation (addTo "quizzes") (quizOn "humans_3") = .ok statement ∧
    c.commands (addTo "quizzes") (quizOn "humans_3") = .ok ctes ∧ ¬ (ctes.map Cte.name).Nodup := by
  have found : (Schema.ofCatalog (subjectCatalog "humans_3") {} >>= fun s =>
      (addedBy "quizzes" (quizOn "humans_3") s).map (List.map Cte.name)) =
      .ok ["_sg_input", "humans_3", "humans", "humans_3", "quizzes"] := by
    decide +kernel
  obtain ⟨s, built, found⟩ := bind_eq_ok.mp found
  obtain ⟨ctes, added, names⟩ := map_eq_ok.mp found
  obtain ⟨⟨statement, compiled⟩, commanded⟩ := addedBy_eq_ok.mp added
  refine ⟨⟨s, {}⟩, statement, ctes, built, compiled, commanded, ?_⟩
  rw [names]
  decide

end Lateral
