import Lateral.Proofs.CommandNames
import Lateral.Proofs.QueryRecursion
import Lateral.Proofs.WriteOrder

/-!
Rows of junctions in a mutation's statement. Whether a step writes rows of a junction is worked out
where inserted rows are written, where rows are linked, and once more at the end, where every
junction is put together again. The three agree: the commands that write rows of a junction are
those that are listed at the end, and the end reads each of them once and nothing else.
-/

namespace Lateral
open Mutation Outcome

/-- The step writes rows of a junction: it inserts rows that are related through it to those above,
or it links such rows. Only a link that disconnects removes rows. -/
inductive Step.Crosses : Step → Junction → Bool → Prop where
  | inserted {r : Rows} {parent : Option Rows} {children : List Write} {e : Edge} {j : Junction}
      (inserts : r.kind = .insert) (edge : r.edge = some e) (through : e.kind = .through j) :
      Crosses (.rows r parent children) j false
  | connected {g : LinkGroup} {owner : Rows} {l : Link} {j : Junction}
      (connects : l.kind = .connect) (through : g.edge.kind = .through j) :
      Crosses (.link g owner l) j false
  | disconnected {g : LinkGroup} {owner : Rows} {l : Link} {j : Junction}
      (removes : l.kind = .disconnect) (through : g.edge.kind = .through j) :
      Crosses (.link g owner l) j true

def Cte.junctionWrite? (cte : Cte) : Option (String × Junction × Bool) :=
  match cte.command with
  | .cross c => some (cte.name, c.junction, false)
  | .uncross c => some (cte.name, c.junction, true)
  | _ => none

def Mutation.JunctionWrite.entry (w : JunctionWrite) : String × Junction × Bool :=
  (w.cteName, w.junction, w.removed)

/-- What a junction is put together from: all that was removed from it and all that was added to it,
each once. -/
structure FoldsBack (writes : List JunctionWrite) (junction : String)
    (removed : List (String × Junction)) (added : List String) : Prop where
  excluded : ∀ name j, (name, j) ∈ removed ↔
    ∃ w ∈ writes, w.junction.table = junction ∧ w.entry = (name, j, true)
  united : ∀ name, name ∈ added ↔
    ∃ w ∈ writes, w.junction.table = junction ∧ w.entry = (name, w.junction, false)
  once : (removed.map Prod.fst ++ added).Nodup

theorem FoldsBack.listed {writes : List JunctionWrite} {junction : String}
    {removed : List (String × Junction)} {added : List String}
    (folded : FoldsBack writes junction removed added) {source : String}
    (read : source ∈ removed.map Prod.fst ++ added) : ∃ w ∈ writes, w.cteName = source := by
  rcases List.mem_append.mp read with gone | new
  · obtain ⟨⟨_, j⟩, among, rfl⟩ := List.mem_map.mp gone
    obtain ⟨w, member, -, entry⟩ := (folded.excluded _ j).mp among
    exact ⟨w, member, (Prod.mk.inj entry).1⟩
  · obtain ⟨w, member, -, entry⟩ := (folded.united source).mp new
    exact ⟨w, member, (Prod.mk.inj entry).1⟩

/-- A command that writes rows of a junction adds one for any two rows of its sides, or removes
those that belong to two such rows. -/
theorem junctionWrite_phrase {cte : Cte} {name : String} {j : Junction} {removed : Bool}
    (writes : cte.junctionWrite? = some (name, j, removed)) :
    ∃ parent child : Sql.ColumnRef, cte.command.phrase =
      if removed then Crossing.removePhrase ⟨j, parent, child⟩
      else Crossing.addPhrase ⟨j, parent, child⟩ := by
  unfold Cte.junctionWrite? at writes
  split at writes
  · rename_i c own
    cases writes
    exact ⟨c.parent, c.child, by rw [own]; rfl⟩
  · rename_i c own
    cases writes
    exact ⟨c.parent, c.child, by rw [own]; rfl⟩
  · cases writes

section Written

variable {ctx : Context} {name : String} {chain : Chain} {ctes : List Cte}

theorem junctionWrite_of_step {step : Step} {w : JunctionWrite} :
    JunctionWrite.ofStep? step = some w ↔ step.id = w.id ∧ step.Crosses w.junction w.removed := by
  have through {e : Edge} {j : Junction} (found : e.junction? = some j) : e.kind = .through j := by
    unfold Edge.junction? at found
    split at found
    · rename_i kind
      rw [kind, Option.some.inj found]
    · cases found
  constructor
  · intro made
    cases step with
    | rows r parent children =>
      simp only [JunctionWrite.ofStep?, Option.ite_none_right_eq_some, Option.map_eq_some_iff,
        Option.bind_eq_some_iff] at made
      obtain ⟨inserts, j, ⟨e, edge, found⟩, rfl⟩ := made
      exact ⟨rfl, .inserted inserts edge (through found)⟩
    | link g owner l =>
      obtain ⟨j, found, rfl⟩ := Option.map_eq_some_iff.mp made
      refine ⟨rfl, ?_⟩
      cases way : l.kind with
      | connect => exact .connected way (through found)
      | disconnect => exact .disconnected way (through found)
    | union => cases made
  · rintro ⟨same, crosses⟩
    obtain ⟨id, junction, removed⟩ := w
    cases same
    cases crosses with
    | inserted inserts edge through =>
      simp [JunctionWrite.ofStep?, inserts, edge, Edge.junction?_of_through through]
    | connected way through | disconnected way through =>
      simp [JunctionWrite.ofStep?, Edge.junction?_of_through through, way]

theorem mem_junctionWrites {steps : List Step} {w : JunctionWrite} :
    w ∈ junctionWrites steps ↔
      ∃ step ∈ steps, step.id = w.id ∧ step.Crosses w.junction w.removed := by
  rw [junctionWrites, (sortBy_perm _ _).mem_iff, List.mem_filterMap]
  simp only [junctionWrite_of_step]

theorem junctionWrite_name {cte : Cte} {entry : String × Junction × Bool}
    (writes : cte.junctionWrite? = some entry) : cte.name = entry.1 := by
  unfold Cte.junctionWrite? at writes
  split at writes <;> cases writes <;> rfl

/-- Among the commands of a step, one writes rows of a junction just when the step is listed as
doing so, under the name that is listed. -/
theorem step_junctionWrite {step : Step} (made : StepMade ctx step ctes) (formed : step.Formed) :
    ctes.filterMap Cte.junctionWrite? =
      ((JunctionWrite.ofStep? step).map JunctionWrite.entry).toList := by
  cases made with
  | insert writes filled settled direct =>
    simp [List.filterMap_cons, Cte.junctionWrite?, Context.insertion, JunctionWrite.ofStep?,
      unrelated_of_direct direct formed]
  | insertAcross writes filled edge through =>
    simp [List.filterMap_cons, Cte.junctionWrite?, Context.insertion, JunctionWrite.ofStep?, edge,
      through, insert_of_formed writes formed, JunctionWrite.entry, JunctionWrite.cteName]
  | update updates | read updates =>
    simp [List.filterMap_cons, Cte.junctionWrite?, JunctionWrite.ofStep?, updates]
  | attach kind | detach kind | pick kind =>
    simp [List.filterMap_cons, Cte.junctionWrite?, JunctionWrite.ofStep?, Edge.junction?, kind]
  | connectAcross kind way | disconnectAcross kind way =>
    simp [List.filterMap_cons, Cte.junctionWrite?, JunctionWrite.ofStep?,
      Edge.junction?_of_through kind, way, linkCrossing, JunctionWrite.entry, JunctionWrite.cteName]
  | union => simp [List.filterMap_cons, Cte.junctionWrite?, JunctionWrite.ofStep?]

theorem settleAll_made {steps : List Step} {closings : List Cte}
    (settled : settleAll steps = .ok closings) :
    closings = (distinct ((junctionWrites steps).map fun w => w.junction.table)).map
      (settle (junctionWrites steps)) := by
  replace settled := mapM_eq_ok.mp settled
  generalize distinct ((junctionWrites steps).map fun w => w.junction.table) = names at settled
  induction settled with
  | nil => rfl
  | cons first others ih =>
    split at first
    · cases first
    · cases first
      rw [List.map_cons, ih]

theorem step_settles_nothing {step : Step} (made : StepMade ctx step ctes) :
    ∀ cte ∈ ctes, ∀ junction removed added, cte.command ≠ .settle junction removed added := by
  intro cte member junction removed added same
  cases made with
  | insert | update | read | attach | detach | pick | union =>
    rw [List.mem_singleton] at member
    subst member
    cases same
  | insertAcross | connectAcross | disconnectAcross =>
    simp only [List.mem_cons, List.not_mem_nil, or_false] at member
    rcases member with rfl | rfl <;> cases same

theorem ctes_split (formed : ∀ step ∈ chain.steps, step.Formed)
    (commanded : ctx.ctes name chain = .ok ctes) :
    ∃ written, ctes = written ++ chain.junctionNames.map (settle (junctionWrites chain.steps)) ∧
      (∀ cte ∈ written, ∀ junction removed added, cte.command ≠ .settle junction removed added) ∧
      (written.filterMap Cte.junctionWrite?).Perm
        ((junctionWrites chain.steps).map JunctionWrite.entry) := by
  simp only [Context.ctes, bind_eq_ok, pure_eq_ok] at commanded
  obtain ⟨rows, each, closings, settled, rfl⟩ := commanded
  refine ⟨⟨Input.name, .input name⟩ :: rows.flatten, ?_, ?_, ?_⟩
  · rw [settleAll_made settled]
    rfl
  · refine List.forall_mem_cons.mpr ⟨fun _ _ _ same => Command.noConfusion same, ?_⟩
    intro cte member
    obtain ⟨own, among, inside⟩ := List.mem_flatten.mp member
    obtain ⟨step, -, made⟩ := mapM_made each among
    exact step_settles_nothing (step_made made) cte inside
  have listed : rows.flatten.filterMap Cte.junctionWrite? =
      (chain.steps.filterMap JunctionWrite.ofStep?).map JunctionWrite.entry := by
    replace each := mapM_eq_ok.mp each
    generalize chain.steps = steps at each formed
    induction each with
    | nil => rfl
    | @cons step _ _ _ first others ih =>
      rw [List.flatten_cons, List.filterMap_append,
        ih fun step member => formed step (List.mem_cons_of_mem _ member),
        step_junctionWrite (step_made first) (formed _ (List.mem_cons_self ..))]
      cases own : JunctionWrite.ofStep? step with
      | none =>
        rw [List.filterMap_cons_none own]
        rfl
      | some w =>
        rw [List.filterMap_cons_some own]
        rfl
  have data : Cte.junctionWrite? ⟨Input.name, .input name⟩ = none := rfl
  rw [List.filterMap_cons_none data, listed]
  exact ((sortBy_perm _ _).map _).symm

end Written

section Settled

variable {s : Schema} {kind : RowKind} {t : Table} {value : Json} {chain : Chain}
  (built : build s kind t value = .ok chain)
include built

theorem junctionWrites_ids_nodup : ((junctionWrites chain.steps).map JunctionWrite.id).Nodup := by
  have ids : (chain.steps.map Step.id).Nodup :=
    ((chain_steps_ids chain).trans (build_ids built)).nodup_iff.mpr List.nodup_range
  rw [junctionWrites, ((sortBy_perm _ _).map _).nodup_iff]
  refine List.pairwise_map.mpr (List.pairwise_filterMap.mpr ((List.pairwise_map.mp ids).imp ?_))
  intro first second apart w made w' made' same
  rw [junctionWrite_id made, junctionWrite_id made'] at same
  exact apart same

theorem settle_foldsBack (junction : String) :
    ∃ removed added, settle (junctionWrites chain.steps) junction =
        ⟨junction, .settle junction removed added⟩ ∧
      FoldsBack (junctionWrites chain.steps) junction removed added := by
  refine ⟨_, _, rfl, ⟨?_, ?_, ?_⟩⟩
  · intro name j
    simp only [removals, List.mem_map, List.mem_filter, JunctionWrite.entry, decide_eq_true_eq,
      Prod.mk.injEq]
    constructor
    · rintro ⟨w, ⟨⟨listed, own⟩, removed⟩, named, rfl⟩
      exact ⟨w, listed, own, named, rfl, removed⟩
    · rintro ⟨w, listed, own, named, rfl, removed⟩
      exact ⟨w, ⟨⟨listed, own⟩, removed⟩, named, rfl⟩
  · intro name
    simp only [additions, List.mem_map, List.mem_filter, JunctionWrite.entry, decide_eq_true_eq,
      Prod.mk.injEq, Bool.not_eq_true', true_and]
    constructor
    · rintro ⟨w, ⟨⟨listed, own⟩, added⟩, named⟩
      exact ⟨w, listed, own, named, added⟩
    · rintro ⟨w, listed, own, named, added⟩
      exact ⟨w, ⟨⟨listed, own⟩, added⟩, named⟩
  · have names : ((junctionWrites chain.steps).map JunctionWrite.cteName).Nodup := by
      refine List.pairwise_map.mpr ((List.pairwise_map.mp (junctionWrites_ids_nodup built)).imp ?_)
      intro v w apart same
      exact apart (Sql.numbered_injective same).2
    generalize junctionWrites chain.steps = writes at names
    have parts := List.filter_append_perm (fun w : JunctionWrite => w.removed)
      (writes.filter fun w => w.junction.table = junction)
    have apart := (parts.map JunctionWrite.cteName).nodup_iff.mpr
      (names.sublist (List.filter_sublist.map _))
    rw [List.map_append] at apart
    rw [removals, additions, List.map_map]
    exact apart

end Settled

/-- The commands that write rows of a junction are those that are listed for the end of the
statement, one for each step across a junction. The statement ends with one command for each
junction that is written. It leaves out what was removed, by both keys, and takes in what was added,
each of them once; and all that it reads has been defined before. The statement holds all these
commands as their phrases say. -/
theorem junction_writes_folded_back {s : Schema} {kind : RowKind} {t : Table} {value : Json}
    {chain : Chain} (built : build s kind t value = .ok chain) {ctx : Context} {name : String}
    {ctes : List Cte} (commanded : ctx.ctes name chain = .ok ctes) :
    (∀ b, ctx.writeParts b name chain = .ok (ctes.map fun cte => cte.phrase.text b)) ∧
    (ctes.filterMap Cte.junctionWrite?).Perm
      ((junctionWrites chain.steps).map fun w => (w.cteName, w.junction, w.removed)) ∧
    (∀ cte ∈ ctes, ∀ j removed, cte.junctionWrite? = some (cte.name, j, removed) →
      ∃ parent child : Sql.ColumnRef, cte.command.phrase =
        if removed then Crossing.removePhrase ⟨j, parent, child⟩
        else Crossing.addPhrase ⟨j, parent, child⟩) ∧
    ((junctionWrites chain.steps).map JunctionWrite.id).Nodup ∧
    (∀ w, w ∈ junctionWrites chain.steps ↔
      ∃ step ∈ chain.steps, step.id = w.id ∧ step.Crosses w.junction w.removed) ∧
    ∃ written closings, ctes = written ++ closings ∧
      (∀ cte ∈ written, ∀ junction removed added, cte.command ≠ .settle junction removed added) ∧
      (closings.map Cte.name).Nodup ∧
      (∀ junction, junction ∈ closings.map Cte.name ↔
        ∃ w ∈ junctionWrites chain.steps, w.junction.table = junction) ∧
      ∀ cte ∈ closings, ∃ removed added, cte.command = .settle cte.name removed added ∧
        FoldsBack (junctionWrites chain.steps) cte.name removed added ∧
        (∀ source ∈ cte.command.sources, source ∈ written.map Cte.name) ∧
        (∀ rows, rows ∈ cte.command.phrase.rows ↔
          rows ∈ cte.command.sources ∨ rows = cte.name) ∧
        cte.phrase = [.label cte.name, .words " AS ("] ++
          settlePhrase cte.name removed added ++ [.words ")"] := by
  obtain ⟨written, rfl, settled_last, listed⟩ :=
    ctes_split (fun step => chain_step_formed built) commanded
  have closing_writes : (chain.junctionNames.map (settle (junctionWrites chain.steps))).filterMap
      Cte.junctionWrite? = [] := by
    rw [List.filterMap_map]
    exact List.filterMap_eq_nil_iff.mpr fun _ _ => rfl
  have named : (chain.junctionNames.map (settle (junctionWrites chain.steps))).map Cte.name =
      chain.junctionNames := by
    rw [List.map_map]
    exact List.map_id _
  refine ⟨fun b => Context.writeParts_phrases commanded, ?_, fun _ _ _ _ => junctionWrite_phrase,
    junctionWrites_ids_nodup built, fun _ => mem_junctionWrites, written, _, rfl, settled_last,
    ?_, ?_, ?_⟩
  · rw [List.filterMap_append, closing_writes, List.append_nil]
    exact listed
  · rw [named]
    exact distinct_nodup _
  · intro junction
    rw [named, Chain.junctionNames, mem_distinct, List.mem_map]
  · intro cte member
    obtain ⟨junction, -, rfl⟩ := List.mem_map.mp member
    obtain ⟨removed, added, made, folded⟩ := settle_foldsBack built junction
    rw [made]
    refine ⟨removed, added, rfl, folded, ?_, ?_, rfl⟩
    swap
    · intro rows
      rw [Command.mem_rows, Command.stored, List.mem_singleton]
    -- whatever is read is listed, and whatever is listed was written
    intro source read
    obtain ⟨w, member, rfl⟩ := folded.listed read
    have entry := listed.mem_iff.mpr (List.mem_map.mpr ⟨w, member, rfl⟩)
    obtain ⟨cte, among, writes⟩ := List.mem_filterMap.mp entry
    exact List.mem_map.mpr ⟨cte, among, junctionWrite_name writes⟩

def movedQuiz : Json := .obj [("canvas", .obj [
  ("connect", .obj [("id", .int 3)]), ("disconnect", .obj [("id", .int 4)])])]

def quizUpdate (t : Table) : Context := ⟨quizSchema, { table := "quiz", filter := some .never }, t⟩

theorem movedQuiz_folded_back : ∃ t chain ctes, quizSchema.table "quiz" = .ok t ∧
    build quizSchema .update t movedQuiz = .ok chain ∧
    (quizUpdate t).ctes "data" chain = .ok ctes ∧
    ctes.map Cte.name = ["_sg_input", "quizzes", "canvases_2", "panels_2", "canvases_3", "panels_3",
      "canvases", "panels"] ∧
    junctionWrites chain.steps = [⟨2, ⟨"panels", "canvas_id", "quiz_id"⟩, false⟩,
      ⟨3, ⟨"panels", "canvas_id", "quiz_id"⟩, true⟩] ∧
    ∃ cte ∈ ctes, cte.name = "panels" ∧ ∃ removed added,
      cte.command = .settle "panels" removed added ∧
      FoldsBack (junctionWrites chain.steps) "panels" removed added := by
  have found : (quizSchema.table "quiz" >>= fun t => build quizSchema .update t movedQuiz >>=
      fun chain => ((quizUpdate t).ctes "data" chain).map fun ctes =>
        (ctes.map Cte.name, junctionWrites chain.steps)) =
      .ok (["_sg_input", "quizzes", "canvases_2", "panels_2", "canvases_3", "panels_3", "canvases",
        "panels"], [⟨2, ⟨"panels", "canvas_id", "quiz_id"⟩, false⟩,
        ⟨3, ⟨"panels", "canvas_id", "quiz_id"⟩, true⟩]) := by
    decide +kernel
  obtain ⟨t, table, found⟩ := bind_eq_ok.mp found
  obtain ⟨chain, built, found⟩ := bind_eq_ok.mp found
  obtain ⟨ctes, commanded, found⟩ := map_eq_ok.mp found
  obtain ⟨names, writes⟩ := Prod.mk.inj found
  obtain ⟨-, -, -, -, -, written, closings, rfl, -, -, junctions, closed⟩ :=
    junction_writes_folded_back built commanded
  refine ⟨t, chain, _, table, built, commanded, names, writes, ?_⟩
  have panels : "panels" ∈ closings.map Cte.name := by
    rw [junctions, writes]
    exact ⟨_, List.mem_cons_self .., rfl⟩
  obtain ⟨cte, among, named⟩ := List.mem_map.mp panels
  obtain ⟨removed, added, command, folded, -⟩ := closed cte among
  rw [named] at command folded
  exact ⟨cte, List.mem_append_right _ among, named, removed, added, command, folded⟩

end Lateral
