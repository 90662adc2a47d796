import Lateral.Proofs.CompiledTemplates
import Lateral.Proofs.Agreement
import Lateral.Proofs.Nodes

/-!
The read after a mutation. Its root is absorbed: filter and page have been applied by the commands
before it. Reading with an absorbed root is the plain query of the request in which that root has no
filter and asks for all rows.
-/

namespace Lateral

def Selection.absorbed (s : Selection) : Selection :=
  { s with filter := none, paging := { noLimit := true } }

def Request.absorbing (r : Request) (id : Nat) : Request :=
  { r with selections := r.selections.modify id Selection.absorbed }

namespace Query.Context
open Outcome

def settle (id : Nat) (s : Selection) : Selection :=
  { s with
    filter := if s.id = id then none else s.filter
    paging := if s.id = id then { noLimit := true } else s.paging }

theorem settle_same {id : Nat} {s : Selection} (same : s.id = id) : settle id s = s.absorbed := by
  simp [settle, Selection.absorbed, same]

theorem settle_other {id : Nat} {s : Selection} (other : s.id ≠ id) : settle id s = s := by
  simp [settle, other]

def absorbing (ctx : Context) (id : Nat) : Context := { ctx with absorbed := some id }

def settled (ctx : Context) (id : Nat) : Context :=
  { ctx with absorbed := none, request := ctx.request.absorbing id }

section Settled

variable {ctx : Context} {id : Nat}

theorem isAbsorbed_settled (s : Selection) : (ctx.settled id).isAbsorbed s = false := rfl

theorem isAbsorbed_absorbing (s : Selection) :
    (ctx.absorbing id).isAbsorbed s = decide (s.id = id) := by
  simp [isAbsorbed, absorbing, eq_comm]

theorem hasCursor_settle (s : Selection) :
    (ctx.settled id).hasCursor (settle id s) = (ctx.absorbing id).hasCursor s := by
  unfold hasCursor
  rw [isAbsorbed_absorbing, isAbsorbed_settled]
  by_cases same : s.id = id
  · rw [settle_same same]
    simp [same, Selection.absorbed, Paging.isCursor]
  · rw [settle_other same]
    simp [same]

theorem hasCursor_absorbed {s : Selection} (same : s.id = id) :
    (ctx.absorbing id).hasCursor s = false := by
  simp [hasCursor, isAbsorbed_absorbing, same]

theorem selection_settled (placed : ctx.request.Positioned) (i : Nat) :
    (ctx.settled id).selection i = settle id <$> (ctx.absorbing id).selection i := by
  unfold selection settled absorbing Request.absorbing
  simp only [List.getElem?_modify]
  cases found : ctx.request.selections[i]? with
  | none => rfl
  | some s =>
    have at_i := placed i s found
    by_cases same : s.id = id
    · simp [settle_same same, ← at_i, same]
    · simp [settle_other same, ← at_i, Ne.symm same]

theorem parent?_settle (placed : ctx.request.Positioned) (s : Selection) :
    (ctx.settled id).parent? (settle id s) = (ctx.absorbing id).parent? s := by
  cases inside : s.parent with
  | none => simp [parent?, settle, inside]
  | some above =>
    simp only [parent?, settle, inside, selection_settled placed]
    cases (ctx.absorbing id).selection above with
    | error e => rfl
    | ok parent => rfl

def settleLink (id : Nat) : Link → Link
  | .remote child e => .remote (settle id child) e
  | .joined child e => .joined (settle id child) e

theorem link_settle (placed : ctx.request.Positioned) (s : Selection) (child : Nat) :
    (ctx.settled id).link (settle id s) child =
      settleLink id <$> (ctx.absorbing id).link s child := by
  simp only [link, selection_settled placed]
  cases (ctx.absorbing id).selection child with
  | error e => rfl
  | ok c =>
    change (do
      let e ← ctx.schema.edge c.table s.table
      if e.isRemote then
        SkipMask.require child
        return Link.remote (settle id c) e
      else return .joined (settle id c) e) = settleLink id <$> (do
      let e ← ctx.schema.edge c.table s.table
      if e.isRemote then
        SkipMask.require child
        return Link.remote c e
      else return .joined c e)
    cases ctx.schema.edge c.table s.table with
    | error e => rfl
    | ok e =>
      change (if e.isRemote then _ else _) = settleLink id <$> (if e.isRemote then _ else _)
      split
      · cases SkipMask.require child with
        | error e => rfl
        | ok _ => rfl
      · rfl

theorem cursorColumn_settle (s : Selection) (t : Table) :
    (ctx.settled id).cursorColumn (settle id s) t = (ctx.absorbing id).cursorColumn s t := by
  unfold cursorColumn
  rw [hasCursor_settle]
  rfl

theorem cursorColumn_absorbed {s : Selection} {t : Table} {cursor : Option Column}
    (same : s.id = id) (paged : (ctx.absorbing id).cursorColumn s t = .ok cursor) :
    cursor = none := by
  rw [cursorColumn, hasCursor_absorbed same] at paged
  exact (Except.ok.inj paged).symm

theorem effectiveOrders_settle {s : Selection} {t : Table} {cursor : Option Column}
    (paged : (ctx.absorbing id).cursorColumn s t = .ok cursor)
    (requested : List (String × Direction)) :
    effectiveOrders (settle id s) cursor requested = effectiveOrders s cursor requested := by
  by_cases same : s.id = id
  · rw [cursorColumn_absorbed same paged]
    rfl
  · rw [settle_other same]

theorem restrictions_settle {s : Selection} {t : Table} {cursor : Option Column}
    (paged : (ctx.absorbing id).cursorColumn s t = .ok cursor) (parent : Option Parent) :
    (ctx.settled id).restrictions (settle id s) t parent cursor =
      (ctx.absorbing id).restrictions s t parent cursor := by
  simp only [restrictions, isAbsorbed_settled, isAbsorbed_absorbing]
  by_cases same : s.id = id
  · rw [cursorColumn_absorbed same paged, settle_same same]
    simp [Selection.absorbed, same, filterRestrictions]
  · rw [settle_other same]
    simp only [same]
    rfl

theorem limit?_settle (s : Selection) :
    (ctx.settled id).limit? (settle id s) = (ctx.absorbing id).limit? s := by
  simp only [limit?, isAbsorbed_settled, isAbsorbed_absorbing]
  by_cases same : s.id = id
  · simp [settle_same same, Selection.absorbed, same]
  · simp [settle_other same, same, settled, absorbing]

theorem offset?_settle (s : Selection) :
    (ctx.settled id).offset? (settle id s) = (ctx.absorbing id).offset? s := by
  simp only [offset?, isAbsorbed_settled, isAbsorbed_absorbing]
  by_cases same : s.id = id
  · simp [settle_same same, Selection.absorbed, same]
  · simp [settle_other same, same]

theorem joined_settle (links : List Link) :
    (links.map (settleLink id)).filterMap Link.joined? =
      (links.filterMap Link.joined?).map (settle id) := by
  have each : Link.joined? ∘ settleLink id = fun link => link.joined?.map (settle id) := by
    funext link
    cases link <;> rfl
  rw [List.filterMap_map, each, List.map_filterMap]

theorem remote_settle (links : List Link) :
    (links.map (settleLink id)).filterMap Link.remote? =
      (links.filterMap Link.remote?).map fun (c, e) => (settle id c, e) := by
  have each : Link.remote? ∘ settleLink id =
      fun link => link.remote?.map fun (c, e) => (settle id c, e) := by
    funext link
    cases link <;> rfl
  rw [List.filterMap_map, each, List.map_filterMap]

theorem parentColumn_settle (links : List Link) :
    (links.map (settleLink id)).map Link.parentColumn = links.map Link.parentColumn := by
  rw [List.map_map]
  refine List.map_congr_left fun link _ => ?_
  cases link <;> rfl

theorem linkEntries_settle (links : List Link) :
    (ctx.settled id).linkEntries (links.map (settleLink id)) =
      (ctx.absorbing id).linkEntries links := by
  simp only [linkEntries, joined_settle, remote_settle, List.map_map]
  congr 1
  refine List.map_congr_left fun c _ => ?_
  exact congrArg (RowEntry.child _ _ _) (hasCursor_settle c)

theorem links_settle (placed : ctx.request.Positioned) (s : Selection) :
    s.children.mapM ((ctx.settled id).link (settle id s)) =
      List.map (settleLink id) <$> s.children.mapM ((ctx.absorbing id).link s) := by
  rw [← mapM_map_result]
  exact congrArg (s.children.mapM ·) (funext (link_settle placed s))

def settleFindings (id : Nat) (found : Findings) : Findings :=
  { found with
    selection := settle id found.selection
    links := found.links.map (settleLink id) }

theorem findings_settled (placed : ctx.request.Positioned) (i : Nat) :
    Agree (fun found other => other = settleFindings id found) ((ctx.absorbing id).findings i)
      ((ctx.settled id).findings i) := by
  rw [findings_eq, findings_eq, selection_settled placed]
  cases (ctx.absorbing id).selection i with
  | error e => exact .error e
  | ok s =>
    refine Agree.bind_same (ctx.schema.table s.table) fun t _ => ?_
    rw [parent?_settle placed]
    refine Agree.bind_same ((ctx.absorbing id).parent? s) fun parent _ => ?_
    change Agree _ (s.children.mapM ((ctx.absorbing id).link s) >>= _)
      (s.children.mapM ((ctx.settled id).link (settle id s)) >>= _)
    rw [links_settle placed]
    cases s.children.mapM ((ctx.absorbing id).link s) with
    | error e => exact .error e
    | ok links =>
      refine Agree.bind_same (distinctColumns s t) fun distinctOn _ => ?_
      refine Agree.bind_same (requestedOrders s t) fun requested _ => ?_
      rw [cursorColumn_settle]
      refine Agree.bind_same ((ctx.absorbing id).cursorColumn s t) fun cursor paged => ?_
      rw [restrictions_settle paged]
      refine Agree.bind_same ((ctx.absorbing id).restrictions s t parent cursor) fun kept _ => ?_
      exact .ok rfl

theorem outputs_settle (found : Findings) : (settleFindings id found).outputs = found.outputs := by
  have extra : (settleFindings id found).extra = found.extra := by
    simp only [Plan.extra, settleFindings, parentColumn_settle]
  rw [Plan.outputs, extra]
  rfl

theorem base_settle {i : Nat} {found : Findings} (made : (ctx.absorbing id).Found i found) :
    (settleFindings id found).base (ctx.settled id) = found.base (ctx.absorbing id) := by
  have orders : (settleFindings id found).orders = found.orders :=
    effectiveOrders_settle made.cursor found.requested
  have groupBy : (settleFindings id found).groupBy = found.groupBy := by
    rw [Plan.groupBy, outputs_settle]
    rfl
  have limit := @limit?_settle ctx id found.selection
  have offset := @offset?_settle ctx id found.selection
  unfold Findings.base Plan.base
  rw [orders, groupBy, outputs_settle]
  exact congrArg₂ (BaseSource.mk _ _ _ _ _ _ _ _) limit offset

end Settled

end Query.Context

namespace Query

/-- The way of paging shows in the text of a node only if the node has a cursor. -/
def Node.SameText (n other : Node) : Prop :=
  ∃ backward, other = { n with backward := backward } ∧ (n.cursor = none ∨ backward = n.backward)

theorem Node.SameText.listSql {n other : Node} (same : n.SameText other) :
    other.listSql = n.listSql := by
  obtain ⟨backward, rfl, unpaged | rfl⟩ := same
  · have none : ¬ n.cursor.isSome = true := by simp [unpaged]
    unfold Head.listSql
    dsimp only
    rw [if_neg none, if_neg none]
  · rfl

theorem Node.SameText.openSql {n other : Node} (same : n.SameText other) :
    other.openSql = n.openSql := by
  have list := same.listSql
  obtain ⟨backward, rfl, -⟩ := same
  unfold Node.openSql Head.beforeBase
  rw [list]
  rfl

theorem Node.SameText.closeSql {n other : Node} (same : n.SameText other) :
    other.closeSql = n.closeSql := by
  obtain ⟨backward, rfl, -⟩ := same
  rfl

inductive Event.SameText : Event → Event → Prop where
  | enter {n other : Node} (same : n.SameText other) : SameText (.enter n) (.enter other)
  | leave {n other : Node} (same : n.SameText other) : SameText (.leave n) (.leave other)

namespace Context
open Outcome

theorem eventsSql_same {events others : List Event}
    (same : List.Forall₂ Event.SameText events others)
    (left : Nat) : eventsSql left others = eventsSql left events := by
  induction same generalizing left with
  | nil => rfl
  | cons first _ ih =>
    cases first with
    | enter same => rw [eventsSql, eventsSql, same.openSql, ih]
    | leave same =>
      rw [eventsSql, eventsSql, same.closeSql, ih, ih]
      obtain ⟨backward, rfl, -⟩ := same
      rfl

theorem skipped_same {events others : List Event}
    (same : List.Forall₂ Event.SameText events others) :
    skipped others = skipped events := by
  unfold skipped
  congr 1
  induction same with
  | nil => rfl
  | cons first _ ih =>
    rw [List.flatMap_cons, List.flatMap_cons, ih]
    cases first with
    | enter same =>
      obtain ⟨backward, rfl, -⟩ := same
      rfl
    | leave same => rfl

variable {ctx : Context} {id : Nat}

theorem node_settle {i : Nat} {found : Findings} (made : (ctx.absorbing id).Found i found) :
    (found.node (ctx.absorbing id)).SameText ((settleFindings id found).node (ctx.settled id)) := by
  -- The two nodes may page in different directions, but then neither has a cursor.
  refine ⟨isBackward (settle id found.selection), ?_, ?_⟩
  · have orders : (settleFindings id found).orders = found.orders :=
      effectiveOrders_settle made.cursor found.requested
    have joined := @joined_settle id found.links
    have remote := @remote_settle id found.links
    have entries := @linkEntries_settle ctx id found.links
    have base := base_settle made
    unfold Findings.base at base
    unfold Findings.node Plan.node Plan.head Plan.joined Plan.remote
    rw [base, orders]
    simp only [settleFindings, joined, remote, entries, List.map_map]
    rfl
  · by_cases same : found.selection.id = id
    · have unpaged := cursorColumn_absorbed same made.cursor
      exact .inl (congrArg (Option.map Column.name) unpaged)
    · rw [settle_other same]
      exact .inr rfl

theorem node_settled (placed : ctx.request.Positioned) (i : Nat) :
    Agree Node.SameText ((ctx.absorbing id).node i) ((ctx.settled id).node i) := by
  rw [node_eq_findings, node_eq_findings]
  refine (findings_settled placed i).of_runs.map ?_
  rintro found _ ⟨rfl, run, -⟩
  exact node_settle (findings_eq_ok run)

theorem walk_settled (placed : ctx.request.Positioned) (depth i : Nat) :
    Agree (List.Forall₂ Event.SameText) ((ctx.absorbing id).walk depth i)
      ((ctx.settled id).walk depth i) := by
  induction depth generalizing i with
  | zero => exact .error _
  | succ depth ih =>
    unfold walk
    refine (node_settled placed i).bind ?_
    rintro n other same
    have joined : other.joined = n.joined := by
      obtain ⟨backward, rfl, -⟩ := same
      rfl
    rw [joined]
    refine (Agree.mapM_same n.joined fun child _ => ih child).bind ?_
    intro inner others each
    have below : List.Forall₂ Event.SameText inner.flatten others.flatten := List.rel_flatten each
    exact .ok (.cons (.enter same) (List.rel_append below (.cons (.leave same) .nil)))

theorem events_settled (placed : ctx.request.Positioned) :
    Agree (List.Forall₂ Event.SameText) (ctx.absorbing id).events (ctx.settled id).events := by
  unfold events
  have size : (ctx.settled id).request.selections.length = ctx.request.selections.length :=
    List.length_modify ..
  rw [size]
  refine (Agree.mapM_same ctx.request.roots fun root _ => walk_settled placed _ root).map ?_
  exact fun _ _ each => List.rel_flatten each

theorem checkPositions_absorbing (position : Nat) (selections : List Selection) (i : Nat) :
    checkPositions position (selections.modify i Selection.absorbed) =
      checkPositions position selections := by
  induction selections generalizing position i with
  | nil => cases i <;> rfl
  | cons s rest ih =>
    cases i with
    | zero => rfl
    | succ i =>
      rw [List.modify_succ_cons, checkPositions, checkPositions, ih]

theorem roots_settled :
    (ctx.settled id).roots = List.map (settle id) <$> (ctx.absorbing id).roots := by
  unfold roots
  change (if ctx.request.roots.isEmpty then _ else _) =
    List.map (settle id) <$> (if ctx.request.roots.isEmpty then _ else _)
  split
  · rfl
  · change (checkPositions 0 (ctx.request.selections.modify id Selection.absorbed) >>= _) =
      List.map (settle id) <$> (checkPositions 0 ctx.request.selections >>= _)
    rw [checkPositions_absorbing]
    cases checked : checkPositions 0 ctx.request.selections with
    | error e => rfl
    | ok _ =>
      have placed : ctx.request.Positioned := checkPositions_iff.mp checked
      change ctx.request.roots.mapM (ctx.settled id).selection =
        List.map (settle id) <$> ctx.request.roots.mapM (ctx.absorbing id).selection
      rw [← mapM_map_result]
      exact congrArg (ctx.request.roots.mapM ·) (funext (selection_settled placed))

theorem isSeveral_settle (roots : List Selection) :
    (ctx.settled id).isSeveral (roots.map (settle id)) = (ctx.absorbing id).isSeveral roots := by
  have each : (ctx.settled id).hasCursor ∘ settle id = (ctx.absorbing id).hasCursor :=
    funext hasCursor_settle
  rw [isSeveral, List.length_map, List.any_map, each]
  rfl

theorem header_settle (roots : List Selection) :
    (ctx.settled id).header (roots.map (settle id)) = (ctx.absorbing id).header roots := by
  unfold header
  rw [isSeveral_settle, List.map_map]
  have columns : (fun s => rootColumn ((ctx.settled id).hasCursor s) s) ∘ settle id =
      fun s => rootColumn ((ctx.absorbing id).hasCursor s) s := by
    funext s
    exact congrArg (rootColumn · s) (hasCursor_settle s)
  rw [columns]
  cases roots with
  | nil => rfl
  | cons s rest => rfl

theorem compile_settled (ctx : Context) (id : Nat) :
    (ctx.settled id).compile = (ctx.absorbing id).compile := by
  refine (Agree.eq ?_).symm
  unfold compile
  rw [roots_settled]
  cases run : (ctx.absorbing id).roots with
  | error e => exact .error e
  | ok roots =>
    have placed : ctx.request.Positioned := roots_positioned run
    refine (events_settled placed).bind ?_
    intro events others same
    refine .ok ?_
    rw [eventsSql_same same, skipped_same same, header_settle, List.length_map, trailer, trailer,
      isSeveral_settle]

end Context

end Query

/-- The read after the commands of a mutation is the plain query of the request whose root has no
filter and asks for all rows, for any values of the variables. -/
theorem absorbed_read_eq_plain_query (c : Compiler) (r : Request) (id : Nat) (given : Variables) :
    c.read r (some id) given = c.compileQuery (r.absorbing id) given := by
  have plain := Query.Context.compile_settled (c.queryContext r none) id
  rw [c.read_eq_template, c.compileQuery_eq_template]
  exact congrArg (c.finish given <$> ·) plain.symm

end Lateral
