import Lateral.Proofs.QueryLoop
import Mathlib.Data.List.Flatten

/-!
A request whose selections form a forest. Its query ends, its statement is the one by recursion, and
the selections written in it are those reached from a root without passing on to the caller, each
one once.
-/

namespace Lateral

namespace Query

def writtenIds (blocks : List (Rose Node)) : List Nat :=
  (blocks.flatMap Rose.values).map (·.id)

theorem mem_writtenIds {blocks : List (Rose Node)} {id : Nat} :
    id ∈ writtenIds blocks ↔ ∃ b ∈ blocks, ∃ n ∈ b.values, n.id = id := by
  simp only [writtenIds, List.mem_map, List.mem_flatMap]
  exact ⟨fun ⟨n, ⟨b, among, inside⟩, same⟩ => ⟨b, among, n, inside, same⟩,
    fun ⟨b, among, n, inside, same⟩ => ⟨n, ⟨b, among, inside⟩, same⟩⟩

theorem writtenIds_cons (b : Rose Node) (rest : List (Rose Node)) :
    writtenIds (b :: rest) = b.values.map (·.id) ++ writtenIds rest := by
  simp only [writtenIds, List.flatMap_cons, List.map_append]

namespace Context
open Outcome

variable {ctx : Context}

theorem block_id (placed : ctx.request.Positioned) {t : Rose Selection} (held : ctx.Holds t)
    {b : Rose Node} (run : ctx.block t = .ok b) : b.value.id = t.value.id := by
  cases t with
  | node s below =>
    obtain ⟨n, worked, inner, -, rfl⟩ := block_eq_ok.mp run
    exact (nodeOf_selection placed held.root worked).id

theorem writtenIds_sublist {trees : List (Rose Selection)} {blocks : List (Rose Node)}
    (each : List.Forall₂ (fun t b => (b.values.map (·.id)).Sublist (t.values.map Selection.id))
      trees blocks) :
    (writtenIds blocks).Sublist ((trees.flatMap Rose.values).map Selection.id) := by
  induction each with
  | nil => exact List.nil_sublist _
  | cons first _ ih =>
    rw [writtenIds_cons, List.flatMap_cons, List.map_append]
    exact first.append ih

theorem block_ids_sublist (placed : ctx.request.Positioned) {t : Rose Selection}
    (held : ctx.Holds t) {b : Rose Node} (run : ctx.block t = .ok b) :
    (b.values.map (·.id)).Sublist (t.values.map Selection.id) := by
  induction t using Rose.induct generalizing b with
  | node s below ih =>
    have top := block_id placed held run
    obtain ⟨n, -, inner, each, rfl⟩ := block_eq_ok.mp run
    have parts : (writtenIds inner).Sublist
        (((ctx.joinedBelow s below).flatMap Rose.values).map Selection.id) := by
      refine writtenIds_sublist (mapM_forall (fun t among c made => ?_) each)
      have listed : t ∈ below := List.mem_of_mem_filter among
      exact ih t listed (held.inside listed) made
    have kept : ((ctx.joinedBelow s below).flatMap Rose.values).Sublist
        (below.flatMap Rose.values) :=
      List.filter_sublist.flatMap _
    rw [Rose.values_node, Rose.values_node, List.map_cons, List.map_cons]
    exact top ▸ (parts.trans (kept.map Selection.id)).cons_cons n.id

/-- What holds of a node in the text: it is the one of its id, that id is reached, and the children
written in it are written in the same block. -/
structure Written (ctx : Context) (b : Rose Node) (n : Node) : Prop where
  worked : ctx.node n.id = .ok n
  reached : ctx.Reached n.id
  inside : ∀ id ∈ n.joined, ∃ m ∈ b.values, m.id = id

theorem block_written (placed : ctx.request.Positioned) {above : Option Nat} {t : Rose Selection}
    (linked : Linked above t) (held : ctx.Holds t) (reached : ctx.Reached t.value.id)
    {b : Rose Node} (run : ctx.block t = .ok b) : ∀ n ∈ b.values, ctx.Written b n := by
  induction t using Rose.induct generalizing above b with
  | node s below ih =>
    obtain ⟨-, children, inside⟩ := linked
    obtain ⟨n, worked, inner, each, rfl⟩ := block_eq_ok.mp run
    have known := nodeOf_selection placed held.root worked
    have joined : n.joined = (ctx.joinedBelow s below).map fun t => t.value.id :=
      known.joined.trans (children_joined held children)
    intro m member
    rw [Rose.values_node] at member
    rcases List.mem_cons.mp member with rfl | deeper
    · refine ⟨known.id.symm ▸ worked, known.id.symm ▸ reached, fun id listed => ?_⟩
      rw [joined] at listed
      obtain ⟨t, among, rfl⟩ := List.mem_map.mp listed
      obtain ⟨c, made, run⟩ := mapM_mem each among
      have same := block_id placed (held.inside (List.mem_of_mem_filter among)) run
      exact ⟨c.value, Rose.mem_values_of_below made c.value_mem_values, same⟩
    · obtain ⟨c, made, within⟩ := List.mem_flatMap.mp deeper
      obtain ⟨t, among, run⟩ := mapM_made each made
      obtain ⟨listed, joins⟩ := List.mem_filter.mp among
      have below_reached : ctx.Reached t.value.id := by
        refine .child reached held.root ?_ (held.inside listed _ t.value_mem_values) joins
        exact children ▸ List.mem_map_of_mem listed
      have deep := ih t listed (inside t listed) (held.inside listed) below_reached run m within
      refine ⟨deep.worked, deep.reached, fun id child => ?_⟩
      obtain ⟨k, place, same⟩ := deep.inside id child
      exact ⟨k, Rose.mem_values_of_below made place, same⟩

theorem block_children (placed : ctx.request.Positioned) {above : Option Nat} {t : Rose Selection}
    (linked : Linked above t) (held : ctx.Holds t) {b : Rose Node} (run : ctx.block t = .ok b)
    {n : Node} {inner : List (Rose Node)} (within : (Rose.node n inner).Within b) :
    ∃ s, ctx.request.selections[n.id]? = some s ∧
      inner.map (fun c => c.value.id) = s.children.filter (ctx.joins s) := by
  induction t using Rose.induct generalizing above b with
  | node s below ih =>
    obtain ⟨-, children, inside⟩ := linked
    obtain ⟨m, worked, parts, each, rfl⟩ := block_eq_ok.mp run
    cases within with
    | self =>
      refine ⟨s, (nodeOf_selection placed held.root worked).id.symm ▸ held.root, ?_⟩
      have same : List.Forall₂ (fun t c => t.value.id = c.value.id) (ctx.joinedBelow s below)
          inner := by
        refine mapM_forall (fun t among c made => ?_) each
        exact (block_id placed (held.inside (List.mem_of_mem_filter among)) made).symm
      rw [children_joined held children]
      exact (map_eq_map_iff_forall₂.mpr same).symm
    | deeper member deeper =>
      obtain ⟨t, among, made⟩ := mapM_made each member
      have listed : t ∈ below := List.mem_of_mem_filter among
      exact ih t listed (inside t listed) (held.inside listed) made deeper

section Forest

variable {forest : List (Rose Selection)} {blocks : List (Rose Node)}

theorem holds_forest (shape : ctx.request.IsForest forest) {t : Rose Selection}
    (root : t ∈ forest) : ctx.Holds t :=
  fun _ member => shape.selection root member

theorem writtenIds_nodup (shape : ctx.request.IsForest forest)
    (run : forest.mapM ctx.block = .ok blocks) : (writtenIds blocks).Nodup := by
  refine List.Nodup.sublist (writtenIds_sublist ?_) shape.ids_nodup
  exact mapM_forall (fun t root b made =>
    block_ids_sublist shape.placed (holds_forest shape root) made) run

theorem written_forest (shape : ctx.request.IsForest forest)
    (run : forest.mapM ctx.block = .ok blocks) {b : Rose Node} (member : b ∈ blocks) :
    ∀ n ∈ b.values, ctx.Written b n := by
  obtain ⟨t, root, made⟩ := mapM_made run member
  refine block_written shape.placed (shape.linked t root) (holds_forest shape root) ?_ made
  refine .root ?_
  rw [shape.rooted]
  exact List.mem_map_of_mem root

theorem mem_writtenIds_iff (shape : ctx.request.IsForest forest)
    (run : forest.mapM ctx.block = .ok blocks) (id : Nat) :
    id ∈ writtenIds blocks ↔ ctx.Reached id := by
  constructor
  · intro member
    obtain ⟨b, among, n, inside, rfl⟩ := mem_writtenIds.mp member
    exact (written_forest shape run among n inside).reached
  · intro reached
    refine mem_writtenIds.mpr ?_
    induction reached with
    | root listed =>
      rw [shape.rooted] at listed
      obtain ⟨t, root, rfl⟩ := List.mem_map.mp listed
      obtain ⟨b, among, made⟩ := mapM_mem run root
      exact ⟨b, among, b.value, b.value_mem_values,
        block_id shape.placed (holds_forest shape root) made⟩
    | @child parent child _ known listed found joined ih =>
      -- An id has one node, so the one written for the parent is the one that joins the child.
      obtain ⟨b, among, n, inside, same⟩ := ih
      have written := written_forest shape run among n inside
      have worked : ctx.node parent.id = .ok n := same ▸ written.worked
      have child_joined : child.id ∈ n.joined := by
        rw [(nodeOf_selection shape.placed known worked).joined]
        refine List.mem_filter.mpr ⟨listed, ?_⟩
        rw [joins, found, Option.any_some, joined]
      obtain ⟨m, place, id⟩ := written.inside child.id child_joined
      exact ⟨b, among, m, place, id⟩

theorem roots_forest (shape : ctx.request.IsForest forest) :
    ctx.roots = .ok (forest.map Rose.value) := by
  have some_root : ctx.request.roots.isEmpty = false := by
    rw [shape.rooted, List.isEmpty_map]
    exact List.isEmpty_eq_false_iff.mpr shape.nonempty
  have found : ctx.request.roots.mapM ctx.selection = .ok (forest.map Rose.value) := by
    rw [shape.rooted, List.mapM_map, mapM_eq_ok, List.forall₂_map_right_iff, List.forall₂_same]
    exact fun t root => selection_eq_ok.mpr (holds_forest shape root _ t.value_mem_values)
  unfold roots
  rw [some_root, checkPositions_iff.mpr shape.placed]
  exact found

theorem events_forest (shape : ctx.request.IsForest forest) :
    ctx.events = (fun blocks => (blocks.map blockEvents).flatten) <$> forest.mapM ctx.block := by
  have walks : ctx.request.roots.mapM (ctx.walk ctx.request.selections.length) =
      List.map blockEvents <$> forest.mapM ctx.block := by
    rw [shape.rooted, List.mapM_map, ← mapM_map_result]
    exact mapM_congr fun t root => walk_eq_block shape.placed (shape.linked t root)
      (holds_forest shape root) (shape.size_le root)
  unfold events
  rw [walks]
  cases forest.mapM ctx.block with
  | error e => rfl
  | ok blocks => rfl

theorem compile_forest (shape : ctx.request.IsForest forest) :
    ctx.compile = (fun blocks =>
      (ctx.header (forest.map Rose.value) ++
        eventsSql forest.length (blocks.map blockEvents).flatten ++
        ctx.trailer (forest.map Rose.value), skipped (blocks.map blockEvents).flatten)) <$>
      forest.mapM ctx.block := by
  unfold compile
  rw [roots_forest shape, events_forest shape]
  cases forest.mapM ctx.block with
  | error e => rfl
  | ok blocks =>
    change Except.ok _ = Except.ok _
    rw [List.length_map]

theorem outcome_forest (shape : ctx.request.IsForest forest) :
    ctx.outcome = (fun blocks => (blocks.map blockEvents).flatten) <$> forest.mapM ctx.block := by
  unfold outcome
  rw [roots_forest shape]
  exact events_forest shape

theorem loop_forest (shape : ctx.request.IsForest forest) :
    ∃ k, ctx.turn^[k] ctx.start =
      .stopped ((fun blocks => (blocks.map blockEvents).flatten) <$> forest.mapM ctx.block) := by
  rw [← outcome_forest shape]
  refine outcome_stops ?_
  rw [outcome_forest shape]
  exact (RefusedOnly.mapM fun t _ => block_ends t).map

theorem statement_forest (shape : ctx.request.IsForest forest) {b : Bindings} :
    (fun compiled => (⟨compiled.1.fill b, compiled.2⟩ : Statement)) <$> ctx.compile =
      ctx.forestStatement b forest := by
  rw [compile_forest shape]
  unfold forestStatement
  cases run : forest.mapM ctx.block with
  | error e => rfl
  | ok blocks =>
    have each := mapM_eq_ok.mp run
    have nests : ∀ t ∈ blocks, Nests false t := by
      intro t member
      obtain ⟨root, listed, made⟩ := mapM_made run member
      exact block_nests shape.placed (shape.linked root listed) (holds_forest shape listed) made
    change Except.ok (Statement.mk _ _) = Except.ok (Statement.mk _ _)
    dsimp only
    rw [skipped_blocks, Template.fill_append, Template.fill_append, Template.fill_text,
      Template.fill_text, each.length_eq, fill_roots nests]

end Forest

end Context

end Query

/-- The query of a forest of selections ends, with the statement or the refusal that the recursion
on the forest gives. The selections written in it are those reached from a root without passing on
to the caller, each of them once, and in the parentheses of the one that it lies in. -/
theorem forest_query_eq_recursion (c : Compiler) (r : Request) (absorbed : Option Nat)
    (given : Variables) (forest : List (Rose Selection)) (shape : r.IsForest forest) :
    (∃ k, (c.queryContext r absorbed).turn^[k] (c.queryContext r absorbed).start =
      .stopped ((fun blocks => (blocks.map Query.Context.blockEvents).flatten) <$>
        forest.mapM (c.queryContext r absorbed).block)) ∧
    (∀ id, c.read r absorbed given ≠ .error (.endlessSelection id)) ∧
    c.read r absorbed given =
      (c.queryContext r absorbed).forestStatement (c.bindings given) forest ∧
    ∀ blocks, forest.mapM (c.queryContext r absorbed).block = .ok blocks →
      (Query.writtenIds blocks).Nodup ∧
      (∀ id, id ∈ Query.writtenIds blocks ↔ (c.queryContext r absorbed).Reached id) ∧
      ∀ b ∈ blocks, ∀ n inner, (Rose.node n inner).Within b →
        ∃ s, r.selections[n.id]? = some s ∧
          inner.map (fun t => t.value.id) =
            s.children.filter ((c.queryContext r absorbed).joins s) := by
  have forest_shape : (c.queryContext r absorbed).request.IsForest forest := shape
  have read : c.read r absorbed given =
      (c.queryContext r absorbed).forestStatement (c.bindings given) forest := by
    rw [c.read_eq_template]
    exact Query.Context.statement_forest forest_shape
  refine ⟨Query.Context.loop_forest forest_shape, ?_, read, fun blocks run => ⟨?_, ?_, ?_⟩⟩
  · rw [read]
    exact refusedOnly_notEndless.mp (RefusedOnly.mapM fun t _ => Query.Context.block_ends t).map
  · exact Query.Context.writtenIds_nodup forest_shape run
  · exact Query.Context.mem_writtenIds_iff forest_shape run
  · intro b member n inner within
    obtain ⟨t, root, made⟩ := Outcome.mapM_made run member
    exact Query.Context.block_children shape.placed (shape.linked t root)
      (Query.Context.holds_forest forest_shape root) made within

def volcanoCompiler : Compiler where
  schema := {
    tables := ⟨[
      ("volcano", .ofColumns "volcanoes" "volcano" .table
        [{ id := 1, name := "id", sqlType := "bigint", primaryKey := true },
          { id := 2, name := "place", sqlType := "text" }]),
      ("groove", .ofColumns "grooves" "groove" .table
        [{ id := 1, name := "volcano_id", sqlType := "bigint" }]),
      ("human", .ofColumns "humans" "human" .table
        [{ id := 1, name := "name", sqlType := "text" }])]⟩
    edges := ⟨[
      (("echo", "volcano"), ⟨.remote, ⟨"volcanoes", "place", false⟩, ⟨"echoes", "at", false⟩⟩),
      (("groove", "volcano"), ⟨.oneToMany, ⟨"grooves", "volcano_id", false⟩,
        ⟨"volcanoes", "id", false⟩⟩)]⟩ }

def volcanoes : Selection :=
  { Selection.ofTable 0 "volcanoes" with fields := [.ofName "place"], children := [1, 2] }

def echoes : Selection :=
  { Selection.ofTable 1 "echoes" with parent := some 0, children := [3] }

def grooves : Selection := { Selection.ofTable 2 "grooves" with parent := some 0 }

def tornadoes : Selection := { Selection.ofTable 3 "tornadoes" with parent := some 1 }

def humans : Selection := { Selection.ofTable 4 "humans" with fields := [.ofName "name"] }

def volcanoRequest : Request := .query [volcanoes, echoes, grooves, tornadoes, humans]

def volcanoForest : List (Rose Selection) := [
  .node volcanoes [.node echoes [.node tornadoes []], .node grooves []],
  .node humans []]

theorem volcanoForest_query :
    volcanoRequest.IsForest volcanoForest ∧
    (∃ k events, (volcanoCompiler.queryContext volcanoRequest none).turn^[k]
      (volcanoCompiler.queryContext volcanoRequest none).start = .stopped (.ok events)) ∧
    ∃ blocks statement,
      volcanoForest.mapM (volcanoCompiler.queryContext volcanoRequest none).block = .ok blocks ∧
      Query.writtenIds blocks = [0, 2, 4] ∧
      (∀ id, id ∈ [0, 2, 4] ↔ (volcanoCompiler.queryContext volcanoRequest none).Reached id) ∧
      volcanoCompiler.compileQuery volcanoRequest {} = .ok statement ∧
      (volcanoCompiler.queryContext volcanoRequest none).forestStatement
        (volcanoCompiler.bindings {}) volcanoForest = .ok statement ∧
      statement.skipped.ids = [1] := by
  have alone {above : Option Nat} {s : Selection} (parent : s.parent = above)
      (childless : s.children = []) : Linked above (.node s []) :=
    .node parent childless (List.forall_mem_nil _)
  have shape : volcanoRequest.IsForest volcanoForest := by
    refine ⟨Query.Context.checkPositions_iff.mp rfl, by simp [volcanoForest], rfl, ?_, ?_⟩
    · refine List.forall_mem_cons.mpr ⟨.node rfl rfl ?_, List.forall_mem_singleton.mpr ?_⟩
      · refine List.forall_mem_cons.mpr ⟨.node rfl rfl ?_, List.forall_mem_singleton.mpr ?_⟩
        · exact List.forall_mem_singleton.mpr (alone rfl rfl)
        · exact alone rfl rfl
      · exact alone rfl rfl
    · exact .cons volcanoes (.cons echoes (.swap grooves tornadoes [humans]))
  have written : ((volcanoForest.mapM (volcanoCompiler.queryContext volcanoRequest none).block).map
      Query.writtenIds) = .ok [0, 2, 4] := by
    decide +kernel
  have skipped : ((volcanoCompiler.compileQuery volcanoRequest {}).map
      fun statement => statement.skipped.ids) = .ok [1] := by
    decide +kernel
  obtain ⟨blocks, run, ids⟩ := Outcome.map_eq_ok.mp written
  obtain ⟨statement, compiled, left⟩ := Outcome.map_eq_ok.mp skipped
  obtain ⟨⟨k, stops⟩, -, same, each⟩ :=
    forest_query_eq_recursion volcanoCompiler volcanoRequest none {} volcanoForest shape
  rw [run] at stops
  exact ⟨shape, ⟨k, _, stops⟩, blocks, statement, run, ids, ids ▸ (each blocks run).2.1, compiled,
    same.symm.trans compiled, left⟩

end Lateral
