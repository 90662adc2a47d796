import Lateral.Proofs.AcceptedFilters
import Lateral.Proofs.WriteOrigins

/-!
The rows that updates, deletes and links can reach. At the root they are those of the root's filter,
without which neither an update nor a delete compiles. Below it they are related to the rows of the
parent, and narrowed further by the data's own where. A link picks them by the filter in the data,
which has no empty group in it.
-/

namespace Lateral
open Mutation Outcome

structure Scope where
  opening : Template
  /-- What introduces the row sources beside the table. -/
  word : String
  beside : List String
  conditions : List Template
  closing : String

def Scope.sql (sc : Scope) : Template :=
  sc.opening ++
    (if sc.beside.isEmpty then [] else
      Template.text (sc.word ++ String.intercalate ", " (sc.beside.map Sql.name))) ++
    " WHERE " ++ Template.join " AND " sc.conditions ++ sc.closing

def Edge.relating (e : Edge) (parent : String) : List Sql.Equation :=
  match e.junction? with
  | none => [.between e.left e.left.table e.right parent]
  | some j => [.between e.left e.left.table ⟨j.table, j.leftColumn, false⟩ j.table,
      ⟨⟨j.table, j.rightColumn⟩, ⟨parent, e.right.column⟩, false⟩]

def Edge.relatedRows (e : Edge) (parent : String) : List String :=
  match e.junction? with
  | none => [parent]
  | some j => [j.table, parent]

def equationTexts (equations : List Sql.Equation) : List Template :=
  equations.map fun e => Template.text e.sql

namespace Reach

def beside : Reach → List String
  | .filtered _ => []
  | .related parent e _ => e.relatedRows parent

def conditions : Reach → List Template
  | .filtered f => [f]
  | .related parent e filter => equationTexts (e.relating parent) ++ filter.toList

end Reach

def Command.scope? : Command → Option Scope
  | .update table columns data reach => some {
      opening := "UPDATE " ++ Sql.name table ++ " SET (" ++
        columnList (columns.map Assignment.column) ++ ") = (SELECT " ++ sourceList columns ++
        " FROM " ++ data.sql columns ++ ")"
      word := " FROM "
      beside := reach.beside
      conditions := reach.conditions
      closing := " RETURNING " ++ Sql.name table ++ ".*" }
  | .read table reach => some {
      opening := "SELECT " ++ Sql.name table ++ ".* FROM " ++ Sql.name table
      word := ", "
      beside := reach.beside
      conditions := reach.conditions
      closing := "" }
  | .delete table filter => some {
      opening := "DELETE FROM " ++ Sql.name table
      word := " USING "
      beside := []
      conditions := [filter]
      closing := " RETURNING *" }
  | .pick table filter single => some {
      opening := "SELECT * FROM " ++ Sql.name table
      word := ", "
      beside := []
      conditions := [filter]
      closing := if single then " LIMIT 1" else "" }
  | .attach table column owner filter => some {
      opening := "UPDATE " ++ Sql.name table ++ " SET " ++ Sql.name column ++ " = " ++ owner.sql
      word := " FROM "
      beside := [owner.source]
      conditions := [filter]
      closing := " RETURNING " ++ Sql.name table ++ ".*" }
  | .detach table column owner related filter => some {
      opening := "UPDATE " ++ Sql.name table ++ " SET " ++ Sql.name column ++ " = NULL"
      word := " FROM "
      beside := [owner]
      conditions := [Template.text related.sql, filter]
      closing := " RETURNING " ++ Sql.name table ++ ".*" }
  | .uncross c => some {
      opening := "DELETE FROM " ++ Sql.name c.junction.table
      word := " USING "
      beside := [c.parent.source, c.child.source]
      conditions := equationTexts [c.conditions.1, c.conditions.2]
      closing := " RETURNING " ++ Sql.name c.junction.table ++ ".*" }
  | .input _ | .insert .. | .cross _ | .union _ | .settle .. => none

section Text

variable {b : Bindings}

theorem relatedSql_fill (parent : String) (e : Edge) (filter : Option Template) :
    (Reach.relatedSql parent e filter).fill b =
      String.intercalate ", " ((e.relatedRows parent).map Sql.name) ++ " WHERE " ++
        String.intercalate " AND "
          ((Reach.related parent e filter).conditions.map (Template.fill b)) := by
  cases through : e.junction? with
  | none =>
    have related : e.relating parent = [Sql.edgeCondition e parent] := by
      simp only [Edge.relating, Sql.edgeCondition, through]
    cases filter <;> simp [Reach.relatedSql, Reach.relatedRows, Edge.relatedRows, Reach.conditions,
      equationTexts, related, through, Template.fill_text, Template.fill_append,
      String.append_assoc]
  | some j =>
    have related : e.relating parent = [Sql.edgeCondition e parent,
        ⟨⟨j.table, j.rightColumn⟩, ⟨parent, e.right.column⟩, false⟩] := by
      simp only [Edge.relating, Sql.edgeCondition, through]
    cases filter <;> simp [Reach.relatedSql, Reach.relatedRows, Edge.relatedRows, Reach.conditions,
      equationTexts, related, through, Template.fill_text, Template.fill_append,
      String.append_assoc]

theorem reach_fill (word : String) (reach : Reach) : (reach.sql word).fill b =
    (if reach.beside.isEmpty then "" else
      word ++ String.intercalate ", " (reach.beside.map Sql.name)) ++ " WHERE " ++
      String.intercalate " AND " (reach.conditions.map (Template.fill b)) := by
  cases reach with
  | filtered f => simp [Reach.sql, Reach.beside, Reach.conditions, Template.fill_append,
      Template.fill_text]
  | related parent e filter =>
    have some_rows : (e.relatedRows parent).isEmpty = false := by
      unfold Edge.relatedRows
      cases e.junction? <;> rfl
    rw [Reach.sql, Template.fill_append, Template.fill_text, relatedSql_fill]
    simp [Reach.beside, some_rows, String.append_assoc]

theorem scope_fill (sc : Scope) : sc.sql.fill b = sc.opening.fill b ++
    (if sc.beside.isEmpty then "" else
      sc.word ++ String.intercalate ", " (sc.beside.map Sql.name)) ++ " WHERE " ++
      String.intercalate " AND " (sc.conditions.map (Template.fill b)) ++ sc.closing := by
  unfold Scope.sql
  split
  · simp only [Template.fill_append, Template.fill_text, Template.fill_join, List.append_nil,
      String.append_empty]
  · simp only [Template.fill_append, Template.fill_text, Template.fill_join]

theorem command_fill {command : Command} {sc : Scope} (found : command.scope? = some sc) :
    command.sql.fill b = sc.sql.fill b := by
  rw [scope_fill]
  cases command with
  | input | insert | cross | union | settle => cases found
  | update | read =>
    cases found
    simp only [Command.sql, Template.fill_append, Template.fill_text, reach_fill,
      String.append_assoc, String.append_empty]
  | detach =>
    cases found
    have clause : " = NULL FROM " = " = NULL" ++ " FROM " := rfl
    simp only [Command.sql, Template.fill_append, Template.fill_text, String.append_assoc, clause]
    simp [Template.fill_text, String.append_assoc]
  | delete | pick | attach =>
    cases found
    simp [Command.sql, Template.fill_append, Template.fill_text, String.append_assoc]
  | uncross c =>
    cases found
    rw [Command.sql, Template.fill_text]
    delta Crossing.removeSql
    simp [Template.fill_append, Template.fill_text, equationTexts, String.append_assoc]

end Text

section Filters

variable {s : Schema} {t : Table} {f : Filter}

theorem ofPayload_wellFormed {value : Json} (accepted : Filter.ofPayload s t value = .ok f) :
    f.WellFormed s t :=
  Filter.Place.filter_wellFormed (.root t value) f (.done t) accepted

/-- A list that holds data is not empty, so that a link never takes the rows of an empty group. -/
theorem linkFilter_wellFormed {value : Json} (nested : value.isNested = true)
    (taken : linkFilter s t value = .ok f) : f.WellFormed s t := by
  cases value with
  | obj fields => exact ofPayload_wellFormed taken
  | arr items =>
    obtain ⟨parts, each, taken⟩ := bind_eq_ok.mp taken
    have formed : ∀ g ∈ parts, g.WellFormed s t := by
      intro g member
      obtain ⟨item, -, accepted⟩ := mapM_made each member
      exact ofPayload_wellFormed accepted
    match parts with
    | [] =>
      rw [List.forall₂_nil_right_iff.mp (mapM_eq_ok.mp each)] at nested
      cases nested
    | [g] =>
      cases taken
      exact formed f List.mem_cons_self
    | g :: h :: rest =>
      cases taken
      exact .any (by simp) formed
  | _ => cases nested

end Filters

def Step.takesRows : Step → Bool
  | .rows r _ _ => r.kind = .update
  | .link .. => true
  | .union _ => false

/-- A link to rows that hold the key of their owner is undone for the owner's rows only. -/
def LinkGroup.relating (g : LinkGroup) (owner : Rows) (l : Link) : List Sql.Equation :=
  if g.edge.isOneToMany ∧ l.kind = .disconnect then g.edge.relating owner.table.name else []

/-- A link that is undone through a junction: a row goes if both its columns fit, one the owner's
row and the other a row that the link picks. -/
inductive Step.Unlinks : Step → Scope → Prop where
  | crossed {g : LinkGroup} {owner : Rows} {l : Link} {sc : Scope} {j : Junction}
      (removes : l.kind = .disconnect) (through : g.edge.junction? = some j)
      (beside : sc.beside = [owner.table.name, g.cteName l])
      (exactly : sc.conditions = equationTexts [
        ⟨⟨j.table, j.rightColumn⟩, ⟨owner.table.name, g.edge.right.column⟩, false⟩,
        ⟨⟨j.table, j.leftColumn⟩, ⟨g.cteName l, g.edge.left.column⟩, false⟩]) :
      Unlinks (.link g owner l) sc

section Steps

variable {ctx : Context} {r p : Rows} {reach : Reach}

theorem rootFilter_made {operation : Operation} {text : Template}
    (made : ctx.rootFilter operation = .ok text) :
    ∃ f, ctx.root.filter = some f ∧ f.sql ctx.schema ctx.table = .ok text := by
  unfold Context.rootFilter at made
  cases filter : ctx.root.filter with
  | none =>
    rw [filter] at made
    cases made
  | some f =>
    rw [filter] at made
    exact ⟨f, rfl, made⟩

theorem reach_root (reached : ctx.reach r none = .ok reach) :
    ∃ text, ctx.rootFilter .update = .ok text ∧ reach = .filtered text := by
  have filtered : ctx.reach r none = (do return .filtered (← ctx.rootFilter .update)) := by
    unfold Context.reach
    cases r.edge <;> rfl
  rw [filtered] at reached
  obtain ⟨text, made, same⟩ := bind_eq_ok.mp reached
  exact ⟨text, made, (pure_eq_ok.mp same).symm⟩

theorem reach_below {e : Edge} (edge : r.edge = some e)
    (reached : ctx.reach r (some p) = .ok reach) :
    ∃ own, r.filter.mapM (Filter.sql ctx.schema r.table) = .ok own ∧
      reach = .related p.table.name e own := by
  unfold Context.reach at reached
  cases filter : r.filter with
  | none =>
    simp only [edge, filter, pure_eq_ok] at reached
    exact ⟨none, rfl, reached.symm⟩
  | some f =>
    simp only [edge, filter, bind_eq_ok, pure_eq_ok] at reached
    obtain ⟨text, made, rfl⟩ := reached
    exact ⟨some text, by simp [made], rfl⟩

theorem mem_listedOf {ws : List Write} {w : Write} {step : Step} (member : w ∈ ws)
    (listed : step ∈ w.listed p) : step ∈ Write.listedOf p ws := by
  induction ws with
  | nil => cases member
  | cons v rest ih =>
    rw [Write.listedOf, List.mem_append]
    rcases List.mem_cons.mp member with rfl | later
    · exact .inl listed
    · exact .inr (ih later)

theorem hasBelow_listed {v w : Write} (hangs : v.HasBelow p w) (above : Rows) :
    ∃ parent children, Step.rows p parent children ∈ v.listed above := by
  induction hangs generalizing above with
  | here => exact ⟨_, _, List.mem_cons_self ..⟩
  | @deeper r p ws v w member _ ih =>
    obtain ⟨parent, children, listed⟩ := ih r
    exact ⟨parent, children, List.mem_cons_of_mem _ (mem_listedOf member listed)⟩

theorem hasBelow_step {chain : Chain} {w : Write} (hangs : chain.tree.HasBelow p w) :
    ∃ parent children, Step.rows p parent children ∈ chain.steps := by
  obtain ⟨parent, children, listed⟩ : ∃ parent children,
      Step.rows p parent children ∈ chain.listed := by
    cases hangs with
    | here => exact ⟨_, _, List.mem_cons_self ..⟩
    | deeper member deeper =>
      obtain ⟨parent, children, listed⟩ := hasBelow_listed deeper chain.root
      exact ⟨parent, children, List.mem_cons_of_mem _ (mem_listedOf member listed)⟩
  exact ⟨parent, children, (chain_steps_perm chain).mem_iff.mpr listed⟩

end Steps

namespace WriteRun

variable {c : Compiler} {r : Request} {given : Variables} (run : WriteRun c r given)

def Defines (p : Rows) (cte : Cte) : Prop :=
  cte ∈ run.ctes ∧ cte.name = p.table.name ∧ ∃ parent children more,
    Step.rows p parent children ∈ run.chain.steps ∧
      run.ctx.step (.rows p parent children) = .ok (cte :: more)

/-- What narrows the rows of a step: at the root its filter, below it the relationship to the rows
above and the own where, and for a link its filter. -/
inductive Narrows : Step → Scope → Prop where
  | root {rows : Rows} {children : List Write} {sc : Scope} {f : Filter} {text : Template}
      (filter : run.ctx.root.filter = some f)
      (rendered : f.sql c.schema run.ctx.table = .ok text) (alone : sc.beside = [])
      (exactly : sc.conditions = [text]) : Narrows (.rows rows none children) sc
  | related {rows p : Rows} {children : List Write} {sc : Scope} {f : String × Json} {e : Edge}
      {above : Cte} {own : Option Template}
      (taken : (Write.rows rows children).TakenFrom c.schema p f)
      (edge : c.schema.edge f.1 p.table.name = .ok e) (parent : run.Defines p above)
      (narrowed : rows.ownWhere?.mapM (Filter.ofPayload c.schema rows.table) = .ok rows.filter)
      (rendered : rows.filter.mapM (Filter.sql c.schema rows.table) = .ok own)
      (beside : sc.beside = e.relatedRows above.name)
      (exactly : sc.conditions = equationTexts (e.relating above.name) ++ own.toList) :
      Narrows (.rows rows (some p) children) sc
  | linked {g : LinkGroup} {owner : Rows} {l : Link} {sc : Scope} {f : String × Json}
      {text : Template} (taken : l.TakenFrom c.schema g.table f)
      (formed : l.filter.WellFormed c.schema g.table)
      (rendered : l.filter.sql c.schema g.table = .ok text)
      (exactly : sc.conditions = equationTexts (g.relating owner l) ++ [text]) :
      Narrows (.link g owner l) sc

section Run

variable {run}

theorem schema_eq : run.ctx.schema = c.schema := (mutationRoot_made run.rooted).2.2.1

theorem defines_above {p : Rows} {w : Write} (hangs : run.chain.tree.HasBelow p w) :
    ∃ above, run.Defines p above := by
  obtain ⟨parent, children, listed⟩ := hasBelow_step hangs
  obtain ⟨own, made, among⟩ := step_commands_mem run.commanded listed
  have named := step_defines (step_made made)
  cases own with
  | nil => cases named
  | cons above more =>
    exact ⟨above, among List.mem_cons_self, Option.some.inj named, parent, children, more, listed,
      made⟩

theorem narrows_reach {rows : Rows} {parent : Option Rows} {children : List Write} {reach : Reach}
    (listed : Step.rows rows parent children ∈ run.chain.steps) (updates : rows.kind = .update)
    (reached : run.ctx.reach rows parent = .ok reach) {sc : Scope}
    (beside : sc.beside = reach.beside) (conditions : sc.conditions = reach.conditions) :
    run.Narrows (.rows rows parent children) sc := by
  rcases chain_step_stands listed with root | stands
  · cases root
    obtain ⟨text, made, rfl⟩ := reach_root reached
    obtain ⟨f, filter, rendered⟩ := rootFilter_made made
    rw [schema_eq] at rendered
    exact .root filter rendered beside conditions
  · cases stands with
    | @rows _ p _ hangs =>
      obtain ⟨f, taken⟩ := build_taken run.built hangs
      obtain ⟨e, related, edge, -⟩ := taken.edge
      obtain ⟨own, rendered, rfl⟩ := reach_below edge reached
      obtain ⟨above, defines⟩ := defines_above hangs
      rw [schema_eq] at rendered
      rw [Reach.beside, ← defines.2.1] at beside
      rw [Reach.conditions, ← defines.2.1] at conditions
      exact .related taken related defines (taken.updated _ _ rfl updates).2 rendered beside
        conditions

theorem link_taken {g : LinkGroup} {owner : Rows} {l : Link}
    (listed : Step.link g owner l ∈ run.chain.steps) :
    ∃ f, l.TakenFrom c.schema g.table f ∧ l.filter.WellFormed c.schema g.table := by
  obtain ⟨hangs, member⟩ := link_step_below listed
  obtain ⟨f, taken⟩ := build_taken run.built hangs
  obtain ⟨q, -, each⟩ := taken.links _ rfl
  obtain ⟨g, -, taken⟩ := forall₂_mem_left each.flip member
  have nested : g.2.isNested = true := by
    have holds := taken.holds
    unfold Table.holdsData at holds
    simp_all
  exact ⟨g, taken, linkFilter_wellFormed nested taken.filter⟩

theorem narrows_link {g : LinkGroup} {owner : Rows} {l : Link} {text : Template}
    (listed : Step.link g owner l ∈ run.chain.steps)
    (rendered : l.filter.sql run.ctx.schema g.table = .ok text) {sc : Scope}
    (conditions : sc.conditions = equationTexts (g.relating owner l) ++ [text]) :
    run.Narrows (.link g owner l) sc := by
  obtain ⟨f, taken, formed⟩ := link_taken listed
  rw [schema_eq] at rendered
  exact .linked taken formed rendered conditions

theorem narrows_filter {g : LinkGroup} {owner : Rows} {l : Link} {text : Template}
    (listed : Step.link g owner l ∈ run.chain.steps)
    (rendered : l.filter.sql run.ctx.schema g.table = .ok text)
    (other : g.edge.kind ≠ .oneToMany ∨ l.kind = .connect) {sc : Scope}
    (conditions : sc.conditions = [text]) : run.Narrows (.link g owner l) sc := by
  have unrelated : g.relating owner l = [] := by
    refine if_neg fun both => ?_
    rcases other with far | connects
    · exact far (of_decide_eq_true both.1)
    · rw [connects] at both
      cases both.2
  refine narrows_link listed rendered ?_
  rw [unrelated, conditions]
  rfl

def Narrowed (run : WriteRun c r given) (step : Step) (own : List Cte) : Prop :=
  (step.takesRows = true → ∃ cte ∈ own, ∃ sc, cte.command.scope? = some sc ∧ run.Narrows step sc) ∧
    ∀ cte ∈ own, ∀ sc, cte.command.scope? = some sc → run.Narrows step sc ∨ step.Unlinks sc

theorem narrowed_none {step : Step} {own : List Cte} (other : step.takesRows = false)
    (none : ∀ cte ∈ own, cte.command.scope? = none) : run.Narrowed step own := by
  refine ⟨?_, ?_⟩
  · intro takes
    rw [other] at takes
    cases takes
  · intro cte member sc found
    rw [none cte member] at found
    cases found

/-- One command has the rows, and if there is another it undoes links. -/
theorem narrowed_first {step : Step} {cte : Cte} {more : List Cte} {sc : Scope}
    (found : cte.command.scope? = some sc) (narrows : run.Narrows step sc)
    (others : ∀ other ∈ more, ∀ sc, other.command.scope? = some sc → step.Unlinks sc) :
    run.Narrowed step (cte :: more) := by
  refine ⟨fun _ => ⟨cte, List.mem_cons_self, sc, found, narrows⟩, ?_⟩
  intro other member otherScope otherFound
  rcases List.mem_cons.mp member with rfl | later
  · rw [← Option.some.inj (found.symm.trans otherFound)]
    exact .inl narrows
  · exact .inr (others other later otherScope otherFound)

theorem step_narrowed {step : Step} (listed : step ∈ run.chain.steps) {own : List Cte}
    (made : run.ctx.step step = .ok own) : run.Narrowed step own := by
  have alone (step : Step) (other : Cte) (member : other ∈ []) (sc : Scope)
      (_ : other.command.scope? = some sc) : step.Unlinks sc := by
    cases member
  cases step_made made with
  | @insert rows _ _ _ writes =>
    refine narrowed_none ?_ fun cte member => ?_
    · cases kind : rows.kind <;> simp_all [Step.takesRows, RowKind.writesRow]
    · rw [List.mem_singleton.mp member]
      rfl
  | @insertAcross rows _ _ _ _ writes =>
    refine narrowed_none ?_ fun cte member => ?_
    · cases kind : rows.kind <;> simp_all [Step.takesRows, RowKind.writesRow]
    · rcases List.mem_pair.mp member with rfl | rfl <;> rfl
  | update updates _ reached =>
    exact narrowed_first rfl (narrows_reach listed updates reached rfl rfl) (alone _)
  | read updates _ reached =>
    exact narrowed_first rfl (narrows_reach listed updates reached rfl rfl) (alone _)
  | attach _ connects taken =>
    exact narrowed_first rfl (narrows_filter listed taken (.inr connects) rfl) (alone _)
  | @detach g owner l _ kind removes taken =>
    have related : g.relating owner l = [Sql.edgeCondition g.edge owner.table.name] := by
      simp [LinkGroup.relating, removes, Edge.isOneToMany, kind, Edge.relating, Sql.edgeCondition,
        Edge.junction?]
    refine narrowed_first rfl (narrows_link listed taken ?_) (alone _)
    rw [related]
    rfl
  | pick kind taken =>
    exact narrowed_first rfl (narrows_filter listed taken (.inl (by simp [kind])) rfl) (alone _)
  | connectAcross kind _ taken =>
    refine narrowed_first rfl (narrows_filter listed taken (.inl (by simp [kind])) rfl) ?_
    intro other member sc found
    rw [List.mem_singleton.mp member] at found
    cases found
  | @disconnectAcross g owner l _ j kind removes taken =>
    refine narrowed_first rfl (narrows_filter listed taken (.inl (by simp [kind])) rfl) ?_
    intro other member sc found
    have through : g.edge.junction? = some j := by simp [Edge.junction?, kind]
    rw [List.mem_singleton.mp member] at found
    cases found
    exact .crossed removes through rfl rfl
  | union g =>
    refine narrowed_none rfl fun cte member => ?_
    rw [List.mem_singleton.mp member]
    rfl

end Run

theorem ctes_narrowed {cte : Cte} (member : cte ∈ run.ctes) {sc : Scope}
    (found : cte.command.scope? = some sc) :
    ∃ step ∈ run.chain.steps, ∃ own, run.ctx.step step = .ok own ∧ cte ∈ own ∧
      (run.Narrows step sc ∨ step.Unlinks sc) := by
  rcases mem_ctes run.commanded member with
    rfl | ⟨step, listed, own, made, inside⟩ | ⟨junction, rfl⟩
  · cases found
  · exact ⟨step, listed, own, made, inside, (step_narrowed listed made).2 cte inside sc found⟩
  · cases found

theorem steps_narrowed {step : Step} (listed : step ∈ run.chain.steps)
    (takes : step.takesRows = true) : ∃ own, run.ctx.step step = .ok own ∧ own ⊆ run.ctes ∧
      ∃ cte ∈ own, ∃ sc, cte.command.scope? = some sc ∧ run.Narrows step sc := by
  obtain ⟨own, made, among⟩ := step_commands_mem run.commanded listed
  exact ⟨own, made, among, (step_narrowed listed made).1 takes⟩

theorem update_filter (updates : run.kind = .update) : ∃ f, run.ctx.root.filter = some f := by
  have kind : run.chain.root.kind = .update := (build_root run.built).2.1.trans updates
  have takes : run.chain.rootStep.takesRows = true := by simp [Chain.rootStep, Step.takesRows, kind]
  obtain ⟨_, -, -, _, -, _, -, narrows⟩ :=
    run.steps_narrowed run.chain.rootStep_mem takes
  cases narrows with
  | root filter => exact ⟨_, filter⟩

end WriteRun

theorem deletion_made {ctx : Context} {cte : Cte} (deleted : ctx.deletion = .ok cte) :
    ∃ f text, ctx.root.filter = some f ∧ f.sql ctx.schema ctx.table = .ok text ∧
      cte = ⟨ctx.table.name, .delete ctx.table.name text⟩ := by
  obtain ⟨text, made, same⟩ := bind_eq_ok.mp deleted
  obtain ⟨f, filter, rendered⟩ := rootFilter_made made
  exact ⟨f, text, filter, rendered, (pure_eq_ok.mp same).symm⟩

/-- Whatever a mutation updates, deletes or links is narrowed. A delete and the update of a root
have the root's filter and no other condition, an update below it the relationship to the rows of
its parent and its own where, and a link a filter without empty groups. -/
theorem writes_narrowed (c : Compiler) (r : Request) (given : Variables) (statement : Statement)
    (mutates : r.operation.isMutation = true)
    (compiled : c.compileMutation r given = .ok statement) :
    (r.operation = .update ∨ r.operation = .delete → ∃ id root f, r.roots.head? = some id ∧
      r.selections[id]? = some root ∧ root.filter = some f) ∧
    ((∃ run : WriteRun c r given, run.statement = statement ∧
      (∀ cte ∈ run.ctes, ∀ sc, cte.command.scope? = some sc →
        (∀ b, cte.command.sql.fill b = sc.sql.fill b) ∧
        ∃ step ∈ run.chain.steps, ∃ own, run.ctx.step step = .ok own ∧ cte ∈ own ∧
          (run.Narrows step sc ∨ step.Unlinks sc)) ∧
      ∀ step ∈ run.chain.steps, step.takesRows = true → ∃ own, run.ctx.step step = .ok own ∧
        own ⊆ run.ctes ∧ ∃ cte ∈ own, ∃ sc, cte.command.scope? = some sc ∧ run.Narrows step sc) ∨
    r.operation = .delete ∧ ∃ rootId ctx f text, c.mutationRoot r = .ok (rootId, ctx) ∧
      ctx.root.filter = some f ∧ f.sql c.schema ctx.table = .ok text ∧
      c.Opens given statement [⟨ctx.table.name, .delete ctx.table.name text⟩]) := by
  cases writes : r.operation.rowKind? with
  | some kind =>
    obtain ⟨run, same⟩ := WriteRun.of_compiled writes compiled
    have own : run.kind = kind := Option.some.inj (run.writes.symm.trans writes)
    refine ⟨?_, .inl ⟨run, same, ?_, fun step => run.steps_narrowed⟩⟩
    · intro needs
      obtain ⟨first, chosen, -⟩ := mutationRoot_made run.rooted
      have updates : run.kind = .update := by
        rcases needs with operation | operation
        · rw [operation] at writes
          rw [own, ← Option.some.inj writes]
        · rw [operation] at writes
          cases writes
      obtain ⟨f, filter⟩ := run.update_filter updates
      exact ⟨_, _, f, first, chosen, filter⟩
    · intro cte member sc found
      exact ⟨fun b => command_fill found, run.ctes_narrowed member found⟩
  | none =>
    obtain ⟨ctes, -, opens, run | ⟨rootId, ctx, cte, rooted, deleted, rfl⟩⟩ :=
      Compiler.commands_of_compiled mutates compiled
    · obtain ⟨run, -⟩ := run
      rw [run.writes] at writes
      cases writes
    · obtain ⟨first, chosen, schema, -⟩ := mutationRoot_made rooted
      obtain ⟨f, text, filter, rendered, rfl⟩ := deletion_made deleted
      rw [schema] at rendered
      have operation : r.operation = .delete := by
        cases operation : r.operation <;> simp_all [Operation.rowKind?, Operation.isMutation]
      exact ⟨fun _ => ⟨_, _, f, first, chosen, filter⟩,
        .inr ⟨operation, rootId, ctx, f, text, rooted, filter, rendered, opens⟩⟩

def scopeTexts (ctes : List Cte) : List (String × List String × List String) :=
  ctes.filterMap fun cte => cte.command.scope?.map fun sc =>
    (cte.name, sc.beside, sc.conditions.map (Template.fill {}))

/-- A quiz with another key, a change of its author if the author is a certain one, and a canvas to
take it off. -/
def rewrittenQuiz : Variables := quizzesOf (.obj [("id", .int 8),
  ("humans", .obj [("id", .int 1), ("where", .obj [("id", .int 5)])]),
  ("canvases", .obj [("disconnect", .arr [.obj [("id", .int 3)], .obj [("id", .int 4)]])])])

theorem rewrittenQuiz_narrowed : ∃ run : WriteRun ⟨quizSchema, {}⟩ changeQuiz rewrittenQuiz,
    Compiler.compileMutation ⟨quizSchema, {}⟩ changeQuiz rewrittenQuiz = .ok run.statement ∧
    scopeTexts run.ctes = [
      ("quizzes", [], ["((\"quizzes\".\"id\") = 7)"]),
      ("humans", ["quizzes"],
        ["((\"humans\".\"id\") = (\"quizzes\".\"human_id\"))", "((\"humans\".\"id\") = 5)"]),
      ("canvases_3", [], ["(((\"canvases\".\"id\") = 3) OR ((\"canvases\".\"id\") = 4))"]),
      ("panels_3", ["quizzes", "canvases_3"],
        ["((\"panels\".\"quiz_id\") = (\"quizzes\".\"id\"))",
          "((\"panels\".\"canvas_id\") = (\"canvases_3\".\"id\"))"])] ∧
    ∀ cte ∈ run.ctes, ∀ sc, cte.command.scope? = some sc →
      ∃ step ∈ run.chain.steps, run.Narrows step sc ∨ step.Unlinks sc := by
  obtain ⟨first, compiled⟩ : ∃ run : WriteRun ⟨quizSchema, {}⟩ changeQuiz rewrittenQuiz, _ :=
    WriteRun.of_succeeds rfl (by decide +kernel)
  rcases (writes_narrowed ⟨quizSchema, {}⟩ changeQuiz rewrittenQuiz first.statement rfl compiled).2
    with ⟨run, same, narrowed, -⟩ | ⟨deletes, -⟩
  · refine ⟨run, same ▸ compiled, ?_, ?_⟩
    · refine Except.ok.inj (ε := Error) ?_
      change (Except.ok run.ctes : Except Error (List Cte)).map scopeTexts = _
      rw [← run.commands_eq]
      decide +kernel
    · intro cte member sc found
      obtain ⟨-, step, listed, own, -, -, reason⟩ := narrowed cte member sc found
      exact ⟨step, listed, reason⟩
  · cases deletes

end Lateral
