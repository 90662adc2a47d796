import Lateral.Proofs.Assignments
import Lateral.Proofs.CommandPhrases
import Lateral.Proofs.Commands
import Lateral.Proofs.Numbering
import Lateral.Proofs.StepTour

/-!
The order of a mutation's steps. Every write of the tree becomes exactly one step, and a step stands
after all steps whose rows its text reads.
-/

namespace Lateral
open Mutation Outcome

/-- Rows of the statement: the number of the write that gives them, and their name. -/
structure RowsRef where
  id : Nat
  name : String
  deriving DecidableEq, Repr

def Rows.ref (r : Rows) : RowsRef := ⟨r.id, r.table.name⟩

@[simp] theorem Rows.ref_name (r : Rows) : r.ref.name = r.table.name := rfl

def LinkGroup.linkRef (g : LinkGroup) (l : Link) : RowsRef := ⟨l.id, g.cteName l⟩

@[simp] theorem LinkGroup.linkRef_name (g : LinkGroup) (l : Link) :
    (g.linkRef l).name = g.cteName l := rfl

def Step.ref : Step → RowsRef
  | .rows r _ _ => r.ref
  | .link g _ l => g.linkRef l
  | .union g => ⟨g.id, g.table.name⟩

def Edge.holdsParentKey (e : Edge) : Bool := e.isOneToMany || e.junction?.isSome

theorem Edge.holdsParentKey_not_oneToOne {e : Edge} (holds : e.holdsParentKey = true) :
    e.isOneToOne = false := by
  cases kind : e.kind <;>
    simp_all [Edge.holdsParentKey, Edge.isOneToOne, Edge.isOneToMany, Edge.junction?]

/-- The rows above that rows read: an update is narrowed to those related to them, and inserted rows
take their key or write it to a junction. -/
def Rows.readsAbove (r : Rows) (parent : Option Rows) : List RowsRef :=
  match r.edge, parent with
  | some e, some p =>
    match r.kind with
    | .update => [p.ref]
    | .insert | .upsert => if e.holdsParentKey then [p.ref] else []
  | _, _ => []

def Rows.readsBelow (r : Rows) : Write → List RowsRef
  | .rows c _ =>
    if r.kind.writesRow && c.kind = .insert && c.edge.any Edge.isOneToOne then [c.ref] else []
  | .links g =>
    if g.edge.isOneToOne then
      ((g.links.find? fun l => l.kind = .connect).map g.linkRef).toList
    else []

def Step.reads : Step → List RowsRef
  | .rows r parent children => r.readsAbove parent ++ children.flatMap r.readsBelow
  | .link g owner _ => if g.edge.holdsParentKey then [owner.ref] else []
  | .union g => g.links.map g.linkRef

/-- Every step reads rows that are known before, or that an earlier step defines. -/
def ReadsEarlier (known : List RowsRef) : List Step → Prop
  | [] => True
  | step :: rest => (∀ ref ∈ step.reads, ref ∈ known) ∧ ReadsEarlier (step.ref :: known) rest

theorem readsEarlier_mono {known more : List RowsRef} {steps : List Step} (sub : known ⊆ more)
    (earlier : ReadsEarlier known steps) : ReadsEarlier more steps := by
  induction steps generalizing known more with
  | nil => trivial
  | cons step rest ih =>
    obtain ⟨own, others⟩ := earlier
    exact ⟨fun ref read => sub (own ref read), ih (List.cons_subset_cons step.ref sub) others⟩

theorem readsEarlier_append {known : List RowsRef} {xs ys : List Step}
    (first : ReadsEarlier known xs) (second : ReadsEarlier (xs.map Step.ref ++ known) ys) :
    ReadsEarlier known (xs ++ ys) := by
  induction xs generalizing known with
  | nil => exact second
  | cons step rest ih =>
    obtain ⟨own, others⟩ := first
    refine ⟨own, ih others (readsEarlier_mono ?_ second)⟩
    intro ref member
    simp only [List.map_cons, List.cons_append, List.mem_cons, List.mem_append] at member ⊢
    tauto

theorem mem_stepsOf {first : Bool} {parent : Rows} {ws : List Write} {w : Write} {step : Step}
    (member : w ∈ ws) (place : w.runsFirst = first) (own : step ∈ w.steps parent) :
    step ∈ Write.stepsOf first parent ws := by
  induction ws with
  | nil => cases member
  | cons v rest ih =>
    rw [Write.stepsOf, List.mem_append]
    rcases List.mem_cons.mp member with rfl | later
    · exact Or.inl (by rwa [if_pos place])
    · exact Or.inr (ih later)

theorem readsBelow_first {r : Rows} {w : Write} {ref : RowsRef} (read : ref ∈ r.readsBelow w) :
    w.runsFirst = true ∧ ∃ step ∈ w.steps r, step.ref = ref := by
  cases w with
  | rows c below =>
    simp only [Rows.readsBelow] at read
    split at read
    · rename_i taken
      simp only [Bool.and_eq_true, decide_eq_true_eq] at taken
      obtain ⟨⟨-, inserted⟩, held⟩ := taken
      refine ⟨by simp [Write.runsFirst, inserted, held], .rows c (some r) below, ?_, ?_⟩
      · simp [Write.steps]
      · exact (List.mem_singleton.mp read).symm
    · cases read
  | links g =>
    simp only [Rows.readsBelow] at read
    split at read
    · rename_i held
      simp only [Option.mem_toList, Option.map_eq_some_iff] at read
      obtain ⟨l, found, rfl⟩ := read
      refine ⟨held, .link g r l, ?_, rfl⟩
      simp [Write.steps, List.mem_of_find?_eq_some found]
    · cases read

theorem readsAbove_last {r p : Rows} {below : List Write} {ref : RowsRef}
    (read : ref ∈ r.readsAbove (some p)) :
    (Write.rows r below).runsFirst = false ∧ ref = p.ref := by
  unfold Rows.readsAbove at read
  cases edge : r.edge with
  | none => simp [edge] at read
  | some e =>
    cases kind : r.kind with
    | update =>
      simp only [edge, kind, List.mem_singleton] at read
      exact ⟨by simp [Write.runsFirst, kind], read⟩
    | upsert =>
      simp only [edge, kind, List.mem_ite_nil_right, List.mem_singleton] at read
      exact ⟨by simp [Write.runsFirst, kind], read.2⟩
    | insert =>
      simp only [edge, kind, List.mem_ite_nil_right, List.mem_singleton] at read
      have later := Edge.holdsParentKey_not_oneToOne read.1
      exact ⟨by simp [Write.runsFirst, edge, later], read.2⟩

theorem level_readsEarlier {known : List RowsRef} {r : Rows} {parent : Option Rows}
    {children : List Write} (above : ∀ ref ∈ r.readsAbove parent, ref ∈ known)
    (below : ∀ known first, (first = false → r.ref ∈ known) →
      ReadsEarlier known (Write.stepsOf first r children)) :
    ReadsEarlier known (Write.stepsOf true r children ++ .rows r parent children ::
      Write.stepsOf false r children) := by
  -- what rows take from below is defined by the steps before them, the rest is known
  refine readsEarlier_append (below known true nofun) ⟨?_, below _ false fun _ => ?_⟩
  · intro ref read
    rcases List.mem_append.mp read with read | read
    · exact List.mem_append_right _ (above ref read)
    · obtain ⟨w, member, read⟩ := List.mem_flatMap.mp read
      obtain ⟨first, step, own, rfl⟩ := readsBelow_first read
      exact List.mem_append_left _ (List.mem_map_of_mem (mem_stepsOf member first own))
  · exact List.mem_cons_self

theorem links_readEarlier {known : List RowsRef} {parent : Rows} {g : LinkGroup} {ls : List Link}
    (above : g.edge.isOneToOne = false → parent.ref ∈ known) :
    ReadsEarlier known (ls.map (Step.link g parent)) := by
  induction ls generalizing known with
  | nil => trivial
  | cons l rest ih =>
    refine ⟨?_, ih fun later => List.mem_cons_of_mem _ (above later)⟩
    intro ref read
    simp only [Step.reads, List.mem_ite_nil_right, List.mem_singleton] at read
    obtain ⟨holds, rfl⟩ := read
    exact above (Edge.holdsParentKey_not_oneToOne holds)

mutual

/-- The steps of a write, if the rows above are known unless the write comes before them. -/
theorem steps_readEarlier (parent : Rows) : ∀ (w : Write) (known : List RowsRef),
    (w.runsFirst = false → parent.ref ∈ known) → ReadsEarlier known (w.steps parent)
  | .rows r children, known, above => by
    refine level_readsEarlier ?_ fun known first => stepsOf_readEarlier r first children known
    intro ref read
    obtain ⟨later, rfl⟩ := readsAbove_last read
    exact above later
  | .links g, known, above => by
    refine readsEarlier_append (links_readEarlier above) ⟨?_, trivial⟩
    intro ref read
    refine List.mem_append_left _ ?_
    simpa [Step.reads, Step.ref, Function.comp_def] using read

theorem stepsOf_readEarlier (parent : Rows) (first : Bool) : ∀ (ws : List Write)
    (known : List RowsRef), (first = false → parent.ref ∈ known) →
    ReadsEarlier known (Write.stepsOf first parent ws)
  | [], known, above => trivial
  | w :: rest, known, above => by
    have others (more : List RowsRef) (sub : known ⊆ more) :
        ReadsEarlier more (Write.stepsOf first parent rest) :=
      stepsOf_readEarlier parent first rest more fun last => sub (above last)
    rw [Write.stepsOf]
    split
    · rename_i place
      refine readsEarlier_append (steps_readEarlier parent w known ?_)
        (others _ (List.subset_append_right _ _))
      intro last
      exact above (place.symm.trans last)
    -- a write on the other side of the rows leaves no step here
    · exact others known (List.Subset.refl known)

end

theorem chain_readsEarlier (chain : Chain) : ReadsEarlier [] chain.steps := by
  refine level_readsEarlier ?_ fun known first =>
    stepsOf_readEarlier chain.root first chain.children known
  intro ref read
  unfold Rows.readsAbove at read
  split at read <;> simp_all

def DefinedBefore (steps : List Step) (i : Nat) (ref : RowsRef) : Prop :=
  ∃ j step, j < i ∧ steps[j]? = some step ∧ Step.ref step = ref

theorem readsEarlier_defined {known : List RowsRef} {steps : List Step}
    (earlier : ReadsEarlier known steps) {i : Nat} {step : Step} (place : steps[i]? = some step)
    {ref : RowsRef} (read : ref ∈ step.reads) : ref ∈ known ∨ DefinedBefore steps i ref := by
  induction steps generalizing known i with
  | nil => simp at place
  | cons first rest ih =>
    obtain ⟨own, others⟩ := earlier
    cases i with
    | zero =>
      simp only [List.getElem?_cons_zero, Option.some.injEq] at place
      subst place
      exact Or.inl (own ref read)
    | succ i =>
      rw [List.getElem?_cons_succ] at place
      rcases ih others place with member | ⟨j, other, less, found, same⟩
      · rcases List.mem_cons.mp member with rfl | member
        · exact Or.inr ⟨0, first, by omega, rfl, rfl⟩
        · exact Or.inl member
      · exact Or.inr ⟨j + 1, other, by omega, by simpa using found, same⟩

section Sources

variable {ctx : Context} {r p : Rows} {parent : Option Rows} {children : List Write} {name : String}

theorem parent_read {e : Edge} (edge : r.edge = some e)
    (needed : r.kind = .update ∨ e.holdsParentKey = true) :
    p.ref ∈ (Step.rows r (some p) children).reads := by
  refine List.mem_append_left _ ?_
  cases kind : r.kind <;> simp_all [Rows.readsAbove]

theorem fromParent_read {column : String} {source : Source}
    (member : (column, source) ∈ r.fromParent parent) (read : source.table? = some name) :
    ∃ ref ∈ (Step.rows r parent children).reads, ref.name = name := by
  obtain ⟨e, p, edge, rfl, -, many, -, rfl⟩ := mem_fromParent.mp member
  refine ⟨p.ref, parent_read edge (Or.inr (by simp [Edge.holdsParentKey, many])), ?_⟩
  simpa [Source.table?] using read

theorem given_read {w : Write} {column : String} {source : Source}
    (given : r.GivenBy w column source) (read : source.table? = some name) :
    ∃ ref ∈ r.readsBelow w, ref.name = name := by
  cases given with
  | @row c below e edge single inserts writes =>
    refine ⟨c.ref, by simp [Rows.readsBelow, edge, single, inserts, writes], ?_⟩
    simpa [Source.table?] using read
  | @connected g l single first =>
    refine ⟨g.linkRef l, by simp [Rows.readsBelow, single, first], ?_⟩
    simpa [Source.table?] using read
  | disconnected => cases read

theorem assignments_read {root : Selection}
    (member : name ∈ (r.assignments root parent children).filterMap fun a => a.source.table?) :
    ∃ ref ∈ (Step.rows r parent children).reads, ref.name = name := by
  obtain ⟨a, assigned, read⟩ := List.mem_filterMap.mp member
  obtain ⟨-, given⟩ := mem_assignments.mp assigned
  cases related : (r.related parent children).lookup a.column.name with
  | some found =>
    simp only [Rows.source?, related, Option.some.injEq] at given
    rw [← given] at read
    rcases related_of_lookup related with above | ⟨w, child, given⟩
    · exact fromParent_read above read
    · obtain ⟨ref, own, same⟩ := given_read given read
      exact ⟨ref, List.mem_append_right _ (List.mem_flatMap.mpr ⟨w, child, own⟩), same⟩
  | none =>
    rcases source?_of_unrelated related given with data | ⟨p, -, preset⟩
    · rw [data] at read
      cases read
    · rw [preset] at read
      cases read

theorem reach_read {reach : Reach} (updates : r.kind = .update)
    (reached : ctx.reach r parent = .ok reach) (member : name ∈ reach.sources) :
    ∃ ref ∈ (Step.rows r parent children).reads, ref.name = name := by
  unfold Context.reach at reached
  split at reached
  · rename_i e p edge
    have named : reach.sources = [p.table.name] := by
      split at reached <;> simp only [bind_eq_ok, pure_eq_ok] at reached
      · obtain ⟨filter, -, rfl⟩ := reached
        rfl
      · subst reached
        rfl
    rw [named, List.mem_singleton] at member
    exact ⟨p.ref, parent_read edge (Or.inl updates), member.symm⟩
  · simp only [bind_eq_ok, pure_eq_ok] at reached
    obtain ⟨filter, -, rfl⟩ := reached
    cases member

theorem linkCrossing_read {g : LinkGroup} {owner : Rows} {l : Link} {j : Junction}
    (kind : g.edge.kind = .through j)
    (read : name ∈
      [(linkCrossing g owner l j).parent.source, (linkCrossing g owner l j).child.source]) :
    g.cteName l = name ∨ ∃ ref ∈ (Step.link g owner l).reads, ref.name = name := by
  simp only [List.mem_cons, List.not_mem_nil, or_false] at read
  rcases read with rfl | rfl
  · refine Or.inr ⟨owner.ref, ?_, rfl⟩
    simp [Step.reads, Edge.holdsParentKey, Edge.junction?, kind]
  · exact Or.inl rfl

theorem step_defines {step : Step} {ctes : List Cte} (made : StepMade ctx step ctes) :
    ctes.head?.map Cte.name = some step.ref.name := by
  cases made <;> rfl

theorem step_sources_read {step : Step} {ctes : List Cte} (made : StepMade ctx step ctes)
    {cte : Cte} (member : cte ∈ ctes) (read : name ∈ cte.command.sources) :
    (∃ first, ctes = [first, cte] ∧ first.name = name) ∨ ∃ ref ∈ step.reads, ref.name = name := by
  cases made with
  | insert writes filled settled direct =>
    rw [List.mem_singleton] at member
    subst member
    exact Or.inr (assignments_read read)
  | @insertAcross r p children e j writes filled edge through =>
    simp only [List.mem_cons, List.not_mem_nil, or_false] at member
    rcases member with rfl | rfl
    · exact Or.inr (assignments_read read)
    · simp only [Command.sources, List.mem_cons, List.not_mem_nil, or_false] at read
      rcases read with rfl | rfl
      · have holds : e.holdsParentKey = true := by simp [Edge.holdsParentKey, through]
        exact Or.inr ⟨p.ref, parent_read edge (Or.inr holds), rfl⟩
      · exact Or.inl ⟨_, rfl, rfl⟩
  | update updates filled reached =>
    rw [List.mem_singleton] at member
    subst member
    rcases List.mem_append.mp read with read | read
    · exact Or.inr (assignments_read read)
    · exact Or.inr (reach_read updates reached read)
  | read updates empty reached =>
    rw [List.mem_singleton] at member
    subst member
    exact Or.inr (reach_read updates reached read)
  | @attach g owner l filter kind connects taken =>
    rw [List.mem_singleton] at member
    subst member
    refine Or.inr ⟨owner.ref, ?_, (List.mem_singleton.mp read).symm⟩
    simp [Step.reads, Edge.holdsParentKey, Edge.isOneToMany, kind]
  | @detach g owner l filter kind removes taken =>
    rw [List.mem_singleton] at member
    subst member
    refine Or.inr ⟨owner.ref, ?_, (List.mem_singleton.mp read).symm⟩
    simp [Step.reads, Edge.holdsParentKey, Edge.isOneToMany, kind]
  | pick kind taken =>
    rw [List.mem_singleton] at member
    subst member
    cases read
  | @connectAcross g owner l filter j kind connects taken =>
    simp only [List.mem_cons, List.not_mem_nil, or_false] at member
    rcases member with rfl | rfl
    · cases read
    · rcases linkCrossing_read kind read with own | above
      · exact Or.inl ⟨_, rfl, own⟩
      · exact Or.inr above
  | @disconnectAcross g owner l filter j kind removes taken =>
    simp only [List.mem_cons, List.not_mem_nil, or_false] at member
    rcases member with rfl | rfl
    · cases read
    · rcases linkCrossing_read kind read with own | above
      · exact Or.inl ⟨_, rfl, own⟩
      · exact Or.inr above
  | union g =>
    rw [List.mem_singleton] at member
    subst member
    obtain ⟨l, link, rfl⟩ := List.mem_map.mp read
    exact Or.inr ⟨g.linkRef l, List.mem_map_of_mem link, rfl⟩

end Sources

/-- The steps of a mutation are its writes, each once, in the order in which a loop over a stack
puts down the items of the worklist. Whatever rows the text of a command reads, the command right
before it in its step defines them, or a step that stands earlier, unless they are the data or those
of a table as it is stored. -/
theorem steps_define_before_use (s : Schema) (kind : RowKind) (t : Table) (value : Json)
    (chain : Chain) (built : build s kind t value = .ok chain) :
    (∃ items turns visits, (turn s)^[turns] (start kind t value) = .stopped (.ok items) ∧
      (Tour.turn items)^[visits] (.running [.enter 0] []) =
        .stopped (chain.steps.map Step.id)) ∧
    (chain.steps.map Step.id).Perm (List.range chain.ids.length) ∧
    ∀ i step, chain.steps[i]? = some step →
      (∀ ref ∈ step.reads, DefinedBefore chain.steps i ref) ∧
      ∀ (ctx : Context) (ctes : List Cte), ctx.step step = .ok ctes →
        (∀ b, ctx.writeStep b step = .ok (ctes.map fun cte => cte.phrase.text b)) ∧
        ctes.head?.map Cte.name = some step.ref.name ∧
        ∀ cte ∈ ctes,
          (∀ name, name ∈ cte.command.phrase.rows ↔
            name ∈ cte.command.sources ∨ name ∈ cte.command.stored) ∧
          ∀ name ∈ cte.command.sources,
            (∃ first, ctes = [first, cte] ∧ first.name = name) ∨
            ∃ ref ∈ step.reads, ref.name = name ∧ DefinedBefore chain.steps i ref := by
  refine ⟨build_toured built, (chain_steps_ids chain).trans (build_ids built), ?_⟩
  intro i step place
  have earlier : ∀ ref ∈ step.reads, DefinedBefore chain.steps i ref := by
    intro ref read
    rcases readsEarlier_defined (chain_readsEarlier chain) place read with known | defined
    · cases known
    · exact defined
  refine ⟨earlier, ?_⟩
  intro ctx ctes run
  refine ⟨fun b => Context.writeStep_phrases run, step_defines (step_made run), ?_⟩
  intro cte member
  refine ⟨fun name => Command.mem_rows, ?_⟩
  intro name read
  rcases step_sources_read (step_made run) member read with own | ⟨ref, reads, same⟩
  · exact Or.inl own
  · exact Or.inr ⟨ref, reads, same, earlier ref reads⟩

def quizSchema : Schema where
  tables := ⟨[
    ("quiz", .ofColumns "quizzes" "quiz" .table
      [{ id := 1, name := "id", sqlType := "bigint", primaryKey := true },
        { id := 2, name := "human_id", sqlType := "bigint" }]),
    ("human", .ofColumns "humans" "human" .table
      [{ id := 1, name := "id", sqlType := "bigint", primaryKey := true }]),
    ("proof", .ofColumns "proofs" "proof" .table
      [{ id := 1, name := "quiz_id", sqlType := "bigint" },
        { id := 2, name := "text", sqlType := "text" }]),
    ("canvas", .ofColumns "canvases" "canvas" .table
      [{ id := 1, name := "id", sqlType := "bigint", primaryKey := true }])]⟩
  edges := ⟨[
    (("human", "quiz"), ⟨.oneToOne, ⟨"humans", "id", false⟩, ⟨"quizzes", "human_id", false⟩⟩),
    (("proof", "quiz"), ⟨.oneToMany, ⟨"proofs", "quiz_id", false⟩, ⟨"quizzes", "id", false⟩⟩),
    (("canvas", "quiz"), ⟨.through ⟨"panels", "canvas_id", "quiz_id"⟩, ⟨"canvases", "id", false⟩,
      ⟨"quizzes", "id", false⟩⟩)]⟩

def quizData : Json := .obj [
  ("human", .obj [("connect", .obj [("id", .int 1)])]),
  ("proof", .arr [.obj [("text", .str "by cases")]]),
  ("canvas", .obj [("connect", .obj [("id", .int 3)])])]

def quizInsert (t : Table) : Context := ⟨quizSchema, { table := "quiz" }, t⟩

theorem quiz_defined_before_use :
    ∃ t chain commands, quizSchema.table "quiz" = .ok t ∧
      build quizSchema .insert t quizData = .ok chain ∧
      chain.steps.map Step.id = [5, 1, 0, 2, 4, 3] ∧
      chain.steps.mapM (quizInsert t).step = .ok commands ∧
      (commands.flatten.map fun cte => (cte.name, cte.command.sources)) =
        [("humans_5", []), ("humans", ["humans_5"]), ("quizzes", ["humans_5"]),
          ("proofs", ["quizzes"]), ("canvases_4", []), ("panels_4", ["quizzes", "canvases_4"]),
          ("canvases", ["canvases_4"])] ∧
      (∃ items turns visits,
        (turn quizSchema)^[turns] (start .insert t quizData) = .stopped (.ok items) ∧
        (Tour.turn items)^[visits] (.running [.enter 0] []) = .stopped [5, 1, 0, 2, 4, 3]) ∧
      (chain.steps.map Step.id).Perm (List.range chain.ids.length) ∧
      ∀ i step, chain.steps[i]? = some step →
        (∀ ref ∈ step.reads, DefinedBefore chain.steps i ref) ∧
        ∃ ctes ∈ commands, (quizInsert t).step step = .ok ctes ∧
          ∀ cte ∈ ctes, ∀ name ∈ cte.command.phrase.rows, name ∈ cte.command.stored ∨
          (∃ first, ctes = [first, cte] ∧ first.name = name) ∨
          ∃ ref ∈ step.reads, ref.name = name ∧ DefinedBefore chain.steps i ref := by
  have order : (do
      let t ← quizSchema.table "quiz"
      let chain ← build quizSchema .insert t quizData
      let commands ← chain.steps.mapM (quizInsert t).step
      return (chain.steps.map Step.id,
        commands.flatten.map fun cte => (cte.name, cte.command.sources))) =
        (.ok ([5, 1, 0, 2, 4, 3],
          [("humans_5", []), ("humans", ["humans_5"]), ("quizzes", ["humans_5"]),
            ("proofs", ["quizzes"]), ("canvases_4", []), ("panels_4", ["quizzes", "canvases_4"]),
            ("canvases", ["canvases_4"])]) : Except Error _) := by
    decide +kernel
  simp only [bind_eq_ok, pure_eq_ok, Prod.mk.injEq] at order
  obtain ⟨t, found, chain, built, commands, commanded, ids, sources⟩ := order
  obtain ⟨toured, once, earlier⟩ :=
    steps_define_before_use quizSchema .insert t quizData chain built
  rw [ids] at toured
  refine ⟨t, chain, commands, found, built, ids, commanded, sources, toured, once, ?_⟩
  intro i step place
  obtain ⟨reads, texts⟩ := earlier i step place
  obtain ⟨ctes, listed, made⟩ := mapM_mem commanded (List.mem_of_getElem? place)
  obtain ⟨-, -, defined⟩ := texts (quizInsert t) ctes made
  refine ⟨reads, ctes, listed, made, ?_⟩
  intro cte member name read
  obtain ⟨rows, sources⟩ := defined cte member
  rcases (rows name).mp read with other | stored
  · exact Or.inr (sources name other)
  · exact Or.inl stored

end Lateral
