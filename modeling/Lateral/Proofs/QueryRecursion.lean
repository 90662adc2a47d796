import Lateral.Proofs.CompiledTemplates
import Lateral.Proofs.Refusals
import Lateral.Proofs.SelectionForest

/-!
The statement of a query by recursion on its selections. Each selection writes its opening, then
the selections in it that are not left to the caller, then its closing; the roots stand side by
side. The walk with its bound on the depth, and its count of the roots that are left, writes the
same statement.
-/

namespace Lateral

namespace Query

def blockSql (b : Bindings) : Rose Node → String :=
  Rose.fold fun n inner => n.openSql.fill b ++ String.join inner ++ n.closeSql

namespace Context

def isJoined (ctx : Context) (parent child : Selection) : Bool :=
  (ctx.schema.edge? child.table parent.table).any fun e => !e.isRemote

mutual

def block (ctx : Context) : Rose Selection → Except Error (Rose Node)
  | .node s below => do
    let n ← ctx.node s.id
    return .node n (← ctx.blocksIn s below)

def blocksIn (ctx : Context) (parent : Selection) :
    List (Rose Selection) → Except Error (List (Rose Node))
  | [] => return []
  | t :: rest =>
    if ctx.isJoined parent t.value then do
      let first ← ctx.block t
      return first :: (← ctx.blocksIn parent rest)
    else ctx.blocksIn parent rest

end

def forestStatement (ctx : Context) (b : Bindings) (forest : List (Rose Selection)) :
    Except Error Statement := do
  let blocks ← forest.mapM ctx.block
  let roots := forest.map Rose.value
  return {
    sql := ctx.header roots ++ String.intercalate ", " (blocks.map (blockSql b)) ++
      ctx.trailer roots
    skipped := SkipMask.ofIds ((blocks.flatMap Rose.values).flatMap Node.remote) }

/-- The ids that are reached from the roots without passing on to the caller. -/
inductive Reached (ctx : Context) : Nat → Prop where
  | root {id : Nat} (member : id ∈ ctx.request.roots) : Reached ctx id
  | child {parent child : Selection} (above : Reached ctx parent.id)
      (known : ctx.request.selections[parent.id]? = some parent)
      (member : child.id ∈ parent.children)
      (found : ctx.request.selections[child.id]? = some child)
      (joined : ctx.isJoined parent child = true) : Reached ctx child.id

def joinedBelow (ctx : Context) (s : Selection) (below : List (Rose Selection)) :
    List (Rose Selection) :=
  below.filter fun t => ctx.isJoined s t.value

open Outcome

variable {ctx : Context} {s : Selection} {below : List (Rose Selection)}

theorem blocksIn_eq (s : Selection) (below : List (Rose Selection)) :
    ctx.blocksIn s below = (ctx.joinedBelow s below).mapM ctx.block := by
  induction below with
  | nil => rfl
  | cons t rest ih =>
    rw [blocksIn, joinedBelow, List.filter_cons]
    split
    · rw [List.mapM_cons, ih]
      rfl
    · exact ih

theorem block_node (s : Selection) (below : List (Rose Selection)) :
    ctx.block (.node s below) = (ctx.node s.id >>= fun n =>
      Rose.node n <$> (ctx.joinedBelow s below).mapM ctx.block) := by
  rw [block]
  simp only [blocksIn_eq, map_eq_pure_bind]

theorem block_eq_ok {b : Rose Node} :
    ctx.block (.node s below) = .ok b ↔ ∃ n, ctx.node s.id = .ok n ∧
      ∃ inner, (ctx.joinedBelow s below).mapM ctx.block = .ok inner ∧ .node n inner = b := by
  simp only [block_node, bind_eq_ok, map_eq_ok]

theorem block_ends (t : Rose Selection) : RefusedOnly Error.NotEndless (ctx.block t) := by
  induction t using Rose.induct with
  | node s below ih =>
    rw [block_node]
    refine (ctx.node_ends s.id).bind fun n _ => ?_
    exact (RefusedOnly.mapM fun t member => ih t (List.mem_of_mem_filter member)).map

def joins (ctx : Context) (s : Selection) (id : Nat) : Bool :=
  ctx.request.selections[id]?.any (ctx.isJoined s)

theorem link_joined (placed : ctx.request.Positioned) {id : Nat} {l : Link}
    (run : ctx.link s id = .ok l) :
    l.joined?.map Selection.id = if ctx.joins s id then some id else none := by
  obtain ⟨child, e, found, known, left⟩ := link_eq_ok run
  have same : child.id = id := placed id child found
  simp only [joins, found, isJoined, known, Option.any_some]
  rcases left with ⟨remote, -, rfl⟩ | ⟨joined, rfl⟩
  · simp [Link.joined?, remote]
  · simp [Link.joined?, joined, same]

theorem links_joined (placed : ctx.request.Positioned) {ids : List Nat} {links : List Link}
    (run : ids.mapM (ctx.link s) = .ok links) :
    (links.filterMap Link.joined?).map Selection.id = ids.filter (ctx.joins s) := by
  rw [List.map_filterMap]
  replace run := mapM_eq_ok.mp run
  induction run with
  | nil => rfl
  | @cons id l ids links first _ ih =>
    rw [List.filterMap_cons, link_joined placed first, List.filter_cons, ih]
    cases ctx.joins s id <;> rfl

structure NodeOf (ctx : Context) (s : Selection) (n : Node) : Prop where
  id : n.id = s.id
  nested : n.nested = s.parent.isSome
  joined : n.joined = s.children.filter (ctx.joins s)

theorem nodeOf_selection (placed : ctx.request.Positioned) {id : Nat} {n : Node}
    (known : ctx.request.selections[id]? = some s) (run : ctx.node id = .ok n) :
    ctx.NodeOf s n := by
  obtain ⟨found, made, rfl⟩ := node_found run
  have same : found.selection = s := by
    have looked := selection_eq_ok.mp made.selection
    rw [known] at looked
    exact (Option.some.inj looked).symm
  refine ⟨congrArg Selection.id same, congrArg (·.parent.isSome) same, ?_⟩
  rw [← same]
  exact links_joined placed made.links

def Holds (ctx : Context) (t : Rose Selection) : Prop :=
  ∀ s ∈ t.values, ctx.request.selections[s.id]? = some s

theorem Holds.root (held : ctx.Holds (.node s below)) :
    ctx.request.selections[s.id]? = some s :=
  held s (Rose.value_mem_values (.node s below))

theorem Holds.inside (held : ctx.Holds (.node s below)) {t : Rose Selection} (member : t ∈ below) :
    ctx.Holds t :=
  fun u inside => held u (Rose.mem_values_of_below member inside)

theorem children_joined (held : ctx.Holds (.node s below))
    (children : s.children = below.map fun t => t.value.id) :
    s.children.filter (ctx.joins s) = (ctx.joinedBelow s below).map fun t => t.value.id := by
  rw [children, List.filter_map]
  refine congrArg (List.map _) (List.filter_congr fun t member => ?_)
  have known := held.inside member t.value t.value_mem_values
  simp only [Function.comp_apply, joins, known, Option.any_some]

def blockEvents : Rose Node → List Event :=
  Rose.fold fun n inner => .enter n :: (inner.flatten ++ [.leave n])

theorem blockEvents_node (n : Node) (inner : List (Rose Node)) :
    blockEvents (.node n inner) = .enter n :: ((inner.map blockEvents).flatten ++ [.leave n]) :=
  Rose.fold_node ..

/-- The walk is the recursion, as long as its bound is not below the size of the tree. -/
theorem walk_eq_block (placed : ctx.request.Positioned) {above : Option Nat} {t : Rose Selection}
    (linked : Linked above t) (held : ctx.Holds t) {depth : Nat}
    (enough : t.values.length ≤ depth) :
    ctx.walk depth t.value.id = blockEvents <$> ctx.block t := by
  induction t using Rose.induct generalizing above depth with
  | node s below ih =>
    obtain ⟨-, children, inside⟩ := linked
    rw [Rose.values_node, List.length_cons] at enough
    obtain ⟨depth, rfl⟩ : ∃ d, depth = d + 1 := ⟨depth - 1, by omega⟩
    rw [block_node]
    change (ctx.node s.id >>= _) = _
    cases run : ctx.node s.id with
    | error e => rfl
    | ok n =>
      have inner : n.joined.mapM (ctx.walk depth) =
          List.map blockEvents <$> (ctx.joinedBelow s below).mapM ctx.block := by
        rw [(nodeOf_selection placed held.root run).joined, children_joined held children,
          List.mapM_map, ← mapM_map_result]
        refine mapM_congr fun t member => ?_
        have listed : t ∈ below := List.mem_of_mem_filter member
        -- A tree below lacks at least the selection itself, which pays for the step down.
        have smaller : t.values.length ≤ (below.flatMap Rose.values).length :=
          (List.sublist_flatten_of_mem (List.mem_map_of_mem listed)).length_le
        exact ih t listed (inside t listed) (held.inside listed) (by omega)
      change (n.joined.mapM (ctx.walk depth) >>= _) = _
      rw [inner]
      cases (ctx.joinedBelow s below).mapM ctx.block with
      | error e => rfl
      | ok blocks => exact congrArg Except.ok (blockEvents_node n blocks).symm

/-- All nodes below the top one lie in another; the top one does if this is so given. -/
inductive Nests : Bool → Rose Node → Prop where
  | node {outer : Bool} {n : Node} {inner : List (Rose Node)} (top : n.nested = outer)
      (inside : ∀ t ∈ inner, Nests true t) : Nests outer (.node n inner)

theorem block_nests (placed : ctx.request.Positioned) {above : Option Nat} {t : Rose Selection}
    (linked : Linked above t) (held : ctx.Holds t) {b : Rose Node} (run : ctx.block t = .ok b) :
    Nests above.isSome b := by
  induction t using Rose.induct generalizing above b with
  | node s below ih =>
    obtain ⟨parent, -, inside⟩ := linked
    obtain ⟨n, worked, inner, each, rfl⟩ := block_eq_ok.mp run
    refine .node ?_ ?_
    · rw [(nodeOf_selection placed held.root worked).nested, parent]
    · intro c member
      obtain ⟨t, among, made⟩ := mapM_made each member
      have listed : t ∈ below := List.mem_of_mem_filter among
      exact ih t listed (inside t listed) (held.inside listed) made

section Text

variable {b : Bindings}

theorem blockSql_node (n : Node) (inner : List (Rose Node)) :
    blockSql b (.node n inner) =
      n.openSql.fill b ++ String.join (inner.map (blockSql b)) ++ n.closeSql :=
  Rose.fold_node ..

theorem fill_enter (left : Nat) (n : Node) (rest : List Event) :
    (eventsSql left (.enter n :: rest)).fill b =
      n.openSql.fill b ++ (eventsSql left rest).fill b := by
  rw [eventsSql, Template.fill_append]

theorem fill_leave_nested {n : Node} (nested : n.nested = true) (left : Nat) (rest : List Event) :
    (eventsSql left (.leave n :: rest)).fill b = n.closeSql ++ (eventsSql left rest).fill b := by
  rw [eventsSql, if_pos nested, Template.fill_append, Template.fill_text]

theorem fill_leave_root {n : Node} (root : n.nested = false) (left : Nat) (rest : List Event) :
    (eventsSql left (.leave n :: rest)).fill b =
      n.closeSql ++ (if 1 < left then ", " else "") ++ (eventsSql (left - 1) rest).fill b := by
  rw [eventsSql, if_neg (by simp [root]), Template.fill_append, Template.fill_append,
    Template.fill_text, Template.fill_text]

theorem fill_block {n : Node} {inner : List (Rose Node)} {left : Nat}
    (each : ∀ t ∈ inner, ∀ rest, (eventsSql left (blockEvents t ++ rest)).fill b =
      blockSql b t ++ (eventsSql left rest).fill b) (rest : List Event) :
    (eventsSql left (blockEvents (.node n inner) ++ rest)).fill b =
      n.openSql.fill b ++ String.join (inner.map (blockSql b)) ++
        (eventsSql left (.leave n :: rest)).fill b := by
  have parts : ∀ rest, (eventsSql left ((inner.map blockEvents).flatten ++ rest)).fill b =
      String.join (inner.map (blockSql b)) ++ (eventsSql left rest).fill b := by
    induction inner with
    | nil => simp
    | cons t more ih =>
      intro rest
      rw [List.map_cons, List.flatten_cons, List.append_assoc, each t (List.mem_cons_self ..),
        ih fun u member => each u (List.mem_cons_of_mem _ member)]
      rw [List.map_cons, String.join_cons, String.append_assoc]
  rw [blockEvents_node, List.cons_append, fill_enter, List.append_assoc, parts,
    String.append_assoc]
  rfl

theorem fill_nested {t : Rose Node} (nests : Nests true t) (left : Nat) (rest : List Event) :
    (eventsSql left (blockEvents t ++ rest)).fill b =
      blockSql b t ++ (eventsSql left rest).fill b := by
  induction t using Rose.induct generalizing rest with
  | node n inner ih =>
    obtain ⟨top, inside⟩ := nests
    rw [fill_block fun t member rest => ih t member (inside t member) rest, fill_leave_nested top,
      blockSql_node]
    simp only [String.append_assoc]

theorem fill_root {t : Rose Node} (nests : Nests false t) (left : Nat) (rest : List Event) :
    (eventsSql left (blockEvents t ++ rest)).fill b =
      blockSql b t ++ (if 1 < left then ", " else "") ++ (eventsSql (left - 1) rest).fill b := by
  cases nests with
  | @node _ n inner top inside =>
    rw [fill_block fun t member rest => fill_nested (inside t member) left rest,
      fill_leave_root top, blockSql_node]
    simp only [String.append_assoc]

theorem fill_roots {roots : List (Rose Node)} (nests : ∀ t ∈ roots, Nests false t) :
    (eventsSql roots.length (roots.map blockEvents).flatten).fill b =
      String.intercalate ", " (roots.map (blockSql b)) := by
  induction roots with
  | nil => rfl
  | cons t rest ih =>
    have first := nests t (List.mem_cons_self ..)
    have others := ih fun u member => nests u (List.mem_cons_of_mem _ member)
    rw [List.map_cons, List.flatten_cons, fill_root first, List.length_cons, Nat.add_sub_cancel,
      others]
    -- The count is that of the trees from here on, so only the last one finds it at one.
    cases rest with
    | nil => simp
    | cons u more =>
      rw [if_pos (by simp)]
      exact String.intercalate_cons_cons.symm

end Text

def entered? : Event → Option Node
  | .enter n => some n
  | .leave _ => none

theorem skipped_eq (events : List Event) :
    skipped events = SkipMask.ofIds ((events.filterMap entered?).flatMap Node.remote) := by
  refine congrArg SkipMask.ofIds ?_
  induction events with
  | nil => rfl
  | cons e rest ih =>
    rw [List.flatMap_cons, ih]
    cases e with
    | enter n => rfl
    | leave n => rfl

theorem entered_block (t : Rose Node) : (blockEvents t).filterMap entered? = t.values := by
  induction t using Rose.induct with
  | node n inner ih =>
    have parts : (inner.map blockEvents).flatten.filterMap entered? =
        inner.flatMap Rose.values := by
      rw [List.filterMap_flatten, List.map_map]
      exact congrArg List.flatten (List.map_congr_left ih)
    rw [blockEvents_node, Rose.values_node, ← parts]
    simp [entered?]

theorem skipped_blocks (roots : List (Rose Node)) :
    skipped (roots.map blockEvents).flatten =
      SkipMask.ofIds ((roots.flatMap Rose.values).flatMap Node.remote) := by
  rw [skipped_eq, List.filterMap_flatten, List.map_map]
  refine congrArg (fun ns => SkipMask.ofIds (List.flatMap Node.remote (List.flatten ns))) ?_
  exact List.map_congr_left fun t _ => entered_block t

end Context

end Query

end Lateral
