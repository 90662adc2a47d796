import Lateral.Proofs.CompiledWrite
import Lateral.Proofs.QueryRecursion

/-!
The selections that a statement renders. A statement ends in the text of the events of its walk. The
nodes that these events begin are those of the selections that are reached from a root without
passing on to the caller, whether or not the selections form a forest.
-/

namespace Lateral

def Request.absorbedRoot (r : Request) : Option Nat :=
  if r.operation.isMutation then r.roots.head? else none

namespace Query

def enteredNodes (events : List Event) : List Node := events.filterMap Context.entered?

theorem mem_enteredNodes {events : List Event} {n : Node} :
    n ∈ enteredNodes events ↔ .enter n ∈ events := by
  unfold enteredNodes
  rw [List.mem_filterMap]
  constructor
  · rintro ⟨event, member, entered⟩
    cases event with
    | enter m =>
      cases entered
      exact member
    | leave m => cases entered
  · intro member
    exact ⟨.enter n, member, rfl⟩

theorem enteredNodes_flatten (walks : List (List Event)) :
    enteredNodes walks.flatten = walks.flatMap enteredNodes := List.filterMap_flatten

namespace Context
open Outcome

variable {ctx : Context}

theorem node_selection {id : Nat} {n : Node} (worked : ctx.node id = .ok n) :
    ∃ s, ctx.request.selections[id]? = some s := by
  obtain ⟨found, made, -⟩ := node_found worked
  exact ⟨found.selection, selection_eq_ok.mp made.selection⟩

theorem node_id (placed : ctx.request.Positioned) {id : Nat} {n : Node}
    (worked : ctx.node id = .ok n) : n.id = id := by
  obtain ⟨s, known⟩ := node_selection worked
  rw [(nodeOf_selection placed known worked).id]
  exact placed id s known

theorem reached_joined (placed : ctx.request.Positioned) {id child : Nat} {n : Node}
    (reached : ctx.Reached id) (worked : ctx.node id = .ok n) (member : child ∈ n.joined) :
    ctx.Reached child := by
  obtain ⟨s, known⟩ := node_selection worked
  rw [(nodeOf_selection placed known worked).joined] at member
  obtain ⟨listed, joins⟩ := List.mem_filter.mp member
  obtain ⟨c, found, joined⟩ := (Option.any_eq_true _ _).mp joins
  have own : s.id = id := placed id s known
  have same : c.id = child := placed child c found
  subst own same
  exact .child reached known listed found joined

/-- What holds of a node that a walk begins: it is the one of its id, that id is reached, and the
children that it is joined with are begun as well. -/
structure Rendered (ctx : Context) (nodes : List Node) (n : Node) : Prop where
  worked : ctx.node n.id = .ok n
  reached : ctx.Reached n.id
  inside : ∀ id ∈ n.joined, ∃ m ∈ nodes, m.id = id

theorem Rendered.mono {nodes more : List Node} {n : Node} (rendered : ctx.Rendered nodes n)
    (among : nodes ⊆ more) : ctx.Rendered more n := by
  refine ⟨rendered.worked, rendered.reached, ?_⟩
  intro id member
  obtain ⟨m, begun, same⟩ := rendered.inside id member
  exact ⟨m, among begun, same⟩

theorem walks_rendered {ids : List Nat} {depth : Nat} {walks : List (List Event)}
    (run : ids.mapM (ctx.walk depth) = .ok walks)
    (each : ∀ id ∈ ids, ∀ events, ctx.walk depth id = .ok events →
      (∃ n ∈ enteredNodes events, n.id = id) ∧
        ∀ n ∈ enteredNodes events, ctx.Rendered (enteredNodes events) n) :
    (∀ id ∈ ids, ∃ n ∈ walks.flatMap enteredNodes, n.id = id) ∧
      ∀ n ∈ walks.flatMap enteredNodes, ctx.Rendered (walks.flatMap enteredNodes) n := by
  have among {events : List Event} (member : events ∈ walks) :
      enteredNodes events ⊆ walks.flatMap enteredNodes := by
    intro n inside
    exact List.mem_flatMap.mpr ⟨events, member, inside⟩
  constructor
  · intro id listed
    obtain ⟨events, member, walked⟩ := mapM_mem run listed
    obtain ⟨n, begun, same⟩ := (each id listed events walked).1
    exact ⟨n, among member begun, same⟩
  · intro n begun
    obtain ⟨events, member, inside⟩ := List.mem_flatMap.mp begun
    obtain ⟨id, listed, walked⟩ := mapM_made run member
    exact ((each id listed events walked).2 n inside).mono (among member)

theorem walk_rendered (placed : ctx.request.Positioned) {depth id : Nat} {events : List Event}
    (reached : ctx.Reached id) (run : ctx.walk depth id = .ok events) :
    (∃ n ∈ enteredNodes events, n.id = id) ∧
      ∀ n ∈ enteredNodes events, ctx.Rendered (enteredNodes events) n := by
  induction depth generalizing id events with
  | zero => cases run
  | succ depth ih =>
    simp only [walk, bind_eq_ok, pure_eq_ok] at run
    obtain ⟨n, worked, inner, walks, rfl⟩ := run
    have own : n.id = id := node_id placed worked
    have entered : enteredNodes (.enter n :: (inner.flatten ++ [.leave n])) =
        n :: inner.flatMap enteredNodes := by
      rw [← enteredNodes_flatten]
      simp [enteredNodes, entered?]
    obtain ⟨below, deeper⟩ := walks_rendered walks fun child member later walked =>
      ih (reached_joined placed reached worked member) walked
    rw [entered]
    constructor
    · exact ⟨n, List.mem_cons_self, own⟩
    · intro m member
      rcases List.mem_cons.mp member with rfl | inside
      · refine ⟨own.symm ▸ worked, own.symm ▸ reached, ?_⟩
        intro child joined
        obtain ⟨k, begun, same⟩ := below child joined
        exact ⟨k, List.mem_cons_of_mem _ begun, same⟩
      · exact (deeper m inside).mono (List.subset_cons_self _ _)

theorem events_rendered (placed : ctx.request.Positioned) {events : List Event}
    (run : ctx.events = .ok events) :
    (∀ id ∈ ctx.request.roots, ∃ n ∈ enteredNodes events, n.id = id) ∧
      ∀ n ∈ enteredNodes events, ctx.Rendered (enteredNodes events) n := by
  obtain ⟨walks, each, joined⟩ := bind_eq_ok.mp run
  rw [← pure_eq_ok.mp joined, enteredNodes_flatten]
  exact walks_rendered each fun id member later walked =>
    walk_rendered placed (.root member) walked

theorem rendered_iff_reached (placed : ctx.request.Positioned) {events : List Event}
    (run : ctx.events = .ok events) (id : Nat) :
    (∃ n ∈ enteredNodes events, n.id = id) ↔ ctx.Reached id := by
  obtain ⟨roots, rendered⟩ := events_rendered placed run
  constructor
  · rintro ⟨n, begun, rfl⟩
    exact (rendered n begun).reached
  · intro reached
    induction reached with
    | root listed => exact roots _ listed
    | @child parent child _ known listed found joined ih =>
      obtain ⟨n, begun, same⟩ := ih
      have worked : ctx.node parent.id = .ok n := same ▸ (rendered n begun).worked
      apply (rendered n begun).inside
      rw [(nodeOf_selection placed known worked).joined, List.mem_filter]
      refine ⟨listed, ?_⟩
      rw [joins, found, Option.any_some, joined]

/-- The statement ends in the text of these events, and leaves out what they leave to the caller.
Before the text stand the commands of a mutation. -/
structure Reads (ctx : Context) (b : Bindings) (statement : Statement) (events : List Event) :
    Prop where
  walked : ctx.events = .ok events
  skipped : statement.skipped = skipped events
  text : ∃ before roots, ctx.roots = .ok roots ∧ statement.sql = before ++
    (ctx.header roots ++ eventsSql roots.length events ++ ctx.trailer roots : Template).fill b

theorem compile_eq_ok {compiled : Template × SkipMask} (run : ctx.compile = .ok compiled) :
    ∃ roots events, ctx.roots = .ok roots ∧ ctx.events = .ok events ∧
      compiled = (ctx.header roots ++ eventsSql roots.length events ++ ctx.trailer roots,
        Context.skipped events) := by
  simp only [compile, bind_eq_ok, pure_eq_ok] at run
  obtain ⟨roots, checked, events, walked, rfl⟩ := run
  exact ⟨roots, events, checked, walked, rfl⟩

theorem openSql_base (n : Node) :
    ∃ before after : Template, n.openSql = before ++ n.base.sql ++ after :=
  ⟨n.beforeBase, n.afterBase, rfl⟩

theorem eventsSql_open {events : List Event} {n : Node} (begun : .enter n ∈ events) (left : Nat) :
    ∃ before after : Template, eventsSql left events = before ++ n.openSql ++ after := by
  induction events generalizing left with
  | nil => cases begun
  | cons event rest ih =>
    cases event with
    | enter m =>
      rw [eventsSql]
      rcases List.mem_cons.mp begun with same | later
      · cases same
        exact ⟨[], eventsSql left rest, by rw [List.nil_append]⟩
      · obtain ⟨before, after, inside⟩ := ih later left
        exact ⟨m.openSql ++ before, after, by rw [inside]; simp⟩
    | leave m =>
      have later := List.mem_of_ne_of_mem (by simp) begun
      rw [eventsSql]
      split
      · obtain ⟨before, after, inside⟩ := ih later left
        exact ⟨m.closeSql ++ before, after, by rw [inside]; simp⟩
      · obtain ⟨before, after, inside⟩ := ih later (left - 1)
        exact ⟨m.closeSql ++ (if 1 < left then ", " else "") ++ before, after, by rw [inside]; simp⟩

theorem Reads.open_text {b : Bindings} {statement : Statement} {events : List Event}
    (reads : ctx.Reads b statement events) {n : Node} (begun : .enter n ∈ events) :
    ∃ before after, statement.sql = before ++ Template.fill b n.openSql ++ after := by
  obtain ⟨front, roots, -, text⟩ := reads.text
  obtain ⟨before, after, inside⟩ := eventsSql_open begun roots.length
  refine ⟨front ++ Template.fill b (ctx.header roots ++ before),
    Template.fill b (after ++ ctx.trailer roots), ?_⟩
  rw [text, inside]
  simp only [Template.fill_append, String.append_assoc]

theorem Reads.base_text {b : Bindings} {statement : Statement} {events : List Event}
    (reads : ctx.Reads b statement events) {n : Node} (begun : .enter n ∈ events) :
    ∃ before after, statement.sql = before ++ Template.fill b n.base.sql ++ after := by
  obtain ⟨front, back, text⟩ := reads.open_text begun
  obtain ⟨before, after, opened⟩ := openSql_base n
  refine ⟨front ++ Template.fill b before, Template.fill b after ++ back, ?_⟩
  rw [text, opened]
  simp only [Template.fill_append, String.append_assoc]

theorem Reads.placed {b : Bindings} {statement : Statement} {events : List Event}
    (reads : ctx.Reads b statement events) : ctx.request.Positioned := by
  obtain ⟨before, roots, checked, -⟩ := reads.text
  exact roots_positioned checked

theorem Reads.found {b : Bindings} {statement : Statement} {events : List Event}
    (reads : ctx.Reads b statement events) {n : Node} (begun : .enter n ∈ events) :
    ∃ found, ctx.Found n.id found ∧ n = found.node ctx := by
  obtain ⟨-, rendered⟩ := events_rendered reads.placed reads.walked
  exact node_found (rendered n (mem_enteredNodes.mpr begun)).worked

theorem Reads.entered_root {b : Bindings} {statement : Statement} {events : List Event}
    (reads : ctx.Reads b statement events) {id : Nat} (root : id ∈ ctx.request.roots) :
    ∃ n, .enter n ∈ events ∧ n.id = id ∧ ctx.node id = .ok n := by
  obtain ⟨roots, rendered⟩ := events_rendered reads.placed reads.walked
  obtain ⟨n, begun, own⟩ := roots id root
  exact ⟨n, mem_enteredNodes.mp begun, own, own ▸ (rendered n begun).worked⟩

end Context

end Query

namespace Compiler
open Outcome

variable {c : Compiler} {r : Request} {given : Variables} {statement : Statement}

theorem finish_reads {absorbed : Option Nat} {read : Template} {skipped : SkipMask}
    (run : (c.queryContext r absorbed).compile = .ok (read, skipped)) (before : Template) :
    ∃ events, (c.queryContext r absorbed).Reads (c.bindings given)
      (c.finish given (before ++ read, skipped)) events := by
  obtain ⟨roots, events, checked, walked, made⟩ := Query.Context.compile_eq_ok run
  obtain ⟨rfl, rfl⟩ := Prod.mk.inj made
  exact ⟨events, walked, rfl, before.fill (c.bindings given), roots, checked,
    Template.fill_append ..⟩

theorem compileQuery_reads (compiled : c.compileQuery r given = .ok statement) :
    ∃ events, (c.queryContext r none).Reads (c.bindings given) statement events := by
  obtain ⟨⟨read, skipped⟩, run, rfl⟩ := compileQuery_eq_ok.mp compiled
  exact finish_reads run []

theorem withRead_reads {root : Nat} {ctes : List Cte} {made : Template × SkipMask}
    (run : c.withRead r root ctes = .ok made) :
    ∃ events, (c.queryContext r (some root)).Reads (c.bindings given) (c.finish given made)
      events := by
  simp only [withRead, bind_eq_ok, pure_eq_ok] at run
  obtain ⟨⟨read, skipped⟩, run, rfl⟩ := run
  exact finish_reads run _

/-- Whatever the operation, the statement ends in the read of a query. That of a mutation has
absorbed its first root. -/
theorem compile_reads_root (compiled : c.compile r given = .ok statement) :
    ∃ events, (c.queryContext r r.absorbedRoot).Reads (c.bindings given) statement events := by
  have after_root {root : Nat} {ctx : Mutation.Context} {ctes : List Cte}
      {made : Template × SkipMask} (mutates : r.operation.isMutation = true)
      (rooted : c.mutationRoot r = .ok (root, ctx)) (run : c.withRead r root ctes = .ok made) :
      ∃ events, (c.queryContext r r.absorbedRoot).Reads (c.bindings given) (c.finish given made)
        events := by
    have first : r.absorbedRoot = some root := by
      rw [Request.absorbedRoot, if_pos mutates]
      exact (mutationRoot_made rooted).1
    rw [first]
    exact withRead_reads run
  unfold compile at compiled
  cases operation : r.operation with
  | query =>
    have none : r.absorbedRoot = none := by
      simp [Request.absorbedRoot, operation, Operation.isMutation]
    rw [operation] at compiled
    rw [none]
    exact compileQuery_reads compiled
  | insert | upsert | update =>
    simp only [operation] at compiled
    obtain ⟨made, run, rfl⟩ := compileMutation_eq_ok.mp compiled
    simp only [mutationTemplate, operation, writeTemplate, bind_eq_ok] at run
    obtain ⟨root, rooted, -, -, chain, -, ctes, -, run⟩ := run
    exact after_root (by rw [operation]; rfl) rooted run
  | delete =>
    simp only [operation] at compiled
    obtain ⟨made, run, rfl⟩ := compileMutation_eq_ok.mp compiled
    simp only [mutationTemplate, operation, bind_eq_ok] at run
    obtain ⟨root, rooted, deleted, -, run⟩ := run
    exact after_root (by rw [operation]; rfl) rooted run

theorem compile_reads (compiled : c.compile r given = .ok statement) :
    ∃ absorbed events, (c.queryContext r absorbed).Reads (c.bindings given) statement events :=
  ⟨_, compile_reads_root compiled⟩

end Compiler

end Lateral
