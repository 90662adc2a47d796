import Lateral.Proofs.QueryForest
import Lateral.Proofs.RenderedSelections
import Lateral.Proofs.SelectionPhrases

/-!
The selections that a statement leaves to the caller. A bit of the skip mask is set for an id
exactly if a rendered selection lists the id as a child and the relationship is remote. All such ids
fit the mask, and each time one is listed the row of the parent passes its column on.
-/

namespace Lateral

namespace SkipMask

theorem contains_insert (m : SkipMask) {id : Nat} (fits : id < width) (j : Nat) :
    (m.insert id).contains j = (m.contains j || decide (id = j)) := by
  have power : 2 ^ id < 2 ^ 64 := Nat.pow_lt_pow_right (by decide) fits
  have whole : (UInt64.ofNat (Nat.pow 2 id)).toNat = 2 ^ id := Nat.mod_eq_of_lt power
  unfold contains insert
  rw [UInt64.toNat_or, Nat.testBit_or, whole, Nat.testBit_two_pow]

theorem contains_ofIds {ids : List Nat} (fits : ∀ id ∈ ids, id < width) (j : Nat) :
    (ofIds ids).contains j = true ↔ j ∈ ids := by
  have from_any (m : SkipMask) :
      (ids.foldl insert m).contains j = true ↔ m.contains j = true ∨ j ∈ ids := by
    induction ids generalizing m with
    | nil => simp
    | cons id rest ih =>
      rw [List.foldl_cons, ih (fun k member => fits k (List.mem_cons_of_mem _ member)),
        contains_insert m (fits id List.mem_cons_self), Bool.or_eq_true, decide_eq_true_eq,
        List.mem_cons, or_assoc, @eq_comm _ id j]
  have empty : ({} : SkipMask).contains j = false := Nat.zero_testBit j
  rw [ofIds, from_any, empty]
  simp

end SkipMask

namespace Query.Context
open Outcome

variable {ctx : Context} {s : Selection}

def remoteEdge? (ctx : Context) (s : Selection) (id : Nat) : Option Edge :=
  ctx.request.selections[id]?.bind fun child =>
    (ctx.schema.edge? child.table s.table).filter Edge.isRemote

/-- What a row passes on: for each remote child, as often as it is listed, the column of the parent
under the name of the remote field. -/
def forwarded (ctx : Context) (s : Selection) : List RowEntry :=
  s.children.filterMap fun id =>
    (ctx.remoteEdge? s id).map fun e => .column e.left.column e.right.column

theorem link_remote {β : Type} (f : Nat → Edge → β) (placed : ctx.request.Positioned) {id : Nat}
    {l : Link} (run : ctx.link s id = .ok l) :
    (l.remote?.map fun x => f x.1.id x.2) = (ctx.remoteEdge? s id).map (f id) := by
  obtain ⟨child, e, found, known, left⟩ := link_eq_ok run
  have same : child.id = id := placed id child found
  simp only [remoteEdge?, found, known, Option.bind_some, Option.filter_some]
  rcases left with ⟨remote, -, rfl⟩ | ⟨joined, rfl⟩
  · simp [Link.remote?, remote, same]
  · simp [Link.remote?, joined]

theorem link_fits {id : Nat} {l : Link} (run : ctx.link s id = .ok l)
    (remote : (ctx.remoteEdge? s id).isSome = true) : id < SkipMask.width := by
  obtain ⟨child, e, found, known, left⟩ := link_eq_ok run
  rcases left with ⟨-, fits, -⟩ | ⟨joined, -⟩
  · exact fits
  · simp only [remoteEdge?, found, known, Option.bind_some, Option.filter_some, joined] at remote
    cases remote

theorem links_remote {β : Type} (f : Nat → Edge → β) (placed : ctx.request.Positioned)
    {ids : List Nat} {links : List Link} (run : ids.mapM (ctx.link s) = .ok links) :
    ((links.filterMap Link.remote?).map fun x => f x.1.id x.2) =
      ids.filterMap fun id => (ctx.remoteEdge? s id).map (f id) := by
  rw [List.map_filterMap]
  replace run := mapM_eq_ok.mp run
  induction run with
  | nil => rfl
  | @cons id l ids links first _ ih =>
    rw [List.filterMap_cons, link_remote f placed first, List.filterMap_cons, ih]

structure PassesOn (ctx : Context) (s : Selection) (n : Node) : Prop where
  remote : n.remote = s.children.filter fun id => (ctx.remoteEdge? s id).isSome
  fits : ∀ id ∈ s.children, (ctx.remoteEdge? s id).isSome = true → id < SkipMask.width
  entries : ∃ (t : Table) (joined : List Selection), ctx.schema.table s.table = .ok t ∧
    n.entries = fieldEntries (fields s t) ++ ctx.forwarded s ++
      joined.map fun c => .child (joinName c.label c.id) c.id c.label (ctx.hasCursor c)

theorem node_passesOn (placed : ctx.request.Positioned) {id : Nat} {n : Node}
    (known : ctx.request.selections[id]? = some s) (worked : ctx.node id = .ok n) :
    ctx.PassesOn s n := by
  obtain ⟨found, made, rfl⟩ := node_found worked
  have looked := selection_eq_ok.mp made.selection
  rw [known] at looked
  cases Option.some.inj looked
  constructor
  · refine (links_remote (fun id _ => id) placed made.links).trans ?_
    rw [← List.filterMap_eq_filter]
    congr 1
    funext id
    cases remote : ctx.remoteEdge? found.selection id with
    | none => simp [Option.guard, remote]
    | some e => simp [Option.guard, remote]
  · intro id member remote
    obtain ⟨l, -, run⟩ := mapM_mem made.links member
    exact link_fits run remote
  · refine ⟨found.table, found.links.filterMap Link.joined?, made.table, ?_⟩
    have passed := links_remote (fun _ e => RowEntry.column e.left.column e.right.column) placed
      made.links
    rw [forwarded, ← passed, List.append_assoc]
    rfl

theorem mem_skipped_iff {b : Bindings} {statement : Statement} {events : List Event}
    (reads : ctx.Reads b statement events) (id : Nat) :
    statement.skipped.contains id = true ↔ ∃ s, ctx.Reached s.id ∧
      ctx.request.selections[s.id]? = some s ∧ id ∈ s.children ∧
        (ctx.remoteEdge? s id).isSome = true := by
  have placed := reads.placed
  obtain ⟨-, rendered⟩ := events_rendered placed reads.walked
  have passes {n : Node} (begun : n ∈ enteredNodes events) :
      ∃ s, ctx.request.selections[n.id]? = some s ∧ s.id = n.id ∧ ctx.PassesOn s n := by
    have worked := (rendered n begun).worked
    obtain ⟨s, known⟩ := node_selection worked
    exact ⟨s, known, placed n.id s known, node_passesOn placed known worked⟩
  have fits : ∀ id ∈ (enteredNodes events).flatMap Node.remote, id < SkipMask.width := by
    intro id member
    obtain ⟨n, begun, left⟩ := List.mem_flatMap.mp member
    obtain ⟨s, -, -, passed⟩ := passes begun
    rw [passed.remote, List.mem_filter] at left
    exact passed.fits id left.1 left.2
  rw [reads.skipped, skipped_eq]
  refine (SkipMask.contains_ofIds fits id).trans ?_
  rw [List.mem_flatMap]
  constructor
  · rintro ⟨n, begun, left⟩
    obtain ⟨s, known, own, passed⟩ := passes begun
    rw [passed.remote, List.mem_filter] at left
    exact ⟨s, own ▸ (rendered n begun).reached, own ▸ known, left.1, left.2⟩
  · rintro ⟨s, reached, known, listed, remote⟩
    obtain ⟨n, begun, same⟩ := (rendered_iff_reached placed reads.walked s.id).mpr reached
    obtain ⟨t, found, -, passed⟩ := passes begun
    rw [same, known] at found
    cases Option.some.inj found
    refine ⟨n, begun, ?_⟩
    rw [passed.remote, List.mem_filter]
    exact ⟨listed, remote⟩

end Query.Context

/-- The skip mask of a query holds an id exactly if a rendered selection lists it as a child and the
relationship between the two tables is remote. No such id is too large for the mask. In the row of a
rendered selection the requested fields come first, then one entry for each time a remote child is
listed, with the column of the parent under the name of the remote field, and then the children that
are joined; and so they stand in the statement. -/
theorem skip_mask_exact (c : Compiler) (r : Request) (given : Variables) (statement : Statement)
    (compiled : c.compileQuery r given = .ok statement) :
    ∃ events, (c.queryContext r none).Reads (c.bindings given) statement events ∧
      (∀ id, (∃ n, .enter n ∈ events ∧ n.id = id) ↔ (c.queryContext r none).Reached id) ∧
      (∀ id, statement.skipped.contains id = true ↔ ∃ s, (c.queryContext r none).Reached s.id ∧
        r.selections[s.id]? = some s ∧ id ∈ s.children ∧
          ((c.queryContext r none).remoteEdge? s id).isSome = true) ∧
      ∀ n, .enter n ∈ events → ∃ s, r.selections[n.id]? = some s ∧
        (c.queryContext r none).PassesOn s n ∧
        ∃ before after, statement.sql =
          before ++ n.toHead.phrase.text (c.bindings given) ++ after := by
  obtain ⟨events, reads⟩ := Compiler.compileQuery_reads compiled
  have placed := reads.placed
  refine ⟨events, reads, ?_, Query.Context.mem_skipped_iff reads, ?_⟩
  · intro id
    simp only [← Query.mem_enteredNodes]
    exact Query.Context.rendered_iff_reached placed reads.walked id
  · intro n begun
    obtain ⟨-, rendered⟩ := Query.Context.events_rendered placed reads.walked
    have worked := (rendered n (Query.mem_enteredNodes.mpr begun)).worked
    obtain ⟨s, known⟩ := Query.Context.node_selection worked
    refine ⟨s, known, Query.Context.node_passesOn placed known worked, ?_⟩
    obtain ⟨before, back, text⟩ := reads.open_text begun
    obtain ⟨between, after, opened⟩ := n.openSql_phrases (b := c.bindings given)
    refine ⟨before, between ++ n.base.rowsPhrase.text (c.bindings given) ++ after ++ back, ?_⟩
    rw [text, opened]
    simp only [String.append_assoc]

def echoesTwice : Request :=
  .query [{ volcanoes with children := [1, 2, 1] }, echoes, grooves]

theorem echoesTwice_skipped : ∃ statement events n,
    volcanoCompiler.compileQuery echoesTwice {} = .ok statement ∧
    (volcanoCompiler.queryContext echoesTwice none).Reads (volcanoCompiler.bindings {}) statement
      events ∧
    statement.skipped.contains 1 = true ∧ .enter n ∈ events ∧ n.id = 0 ∧
    (∃ joined : List Selection, n.entries =
      [.column "place" "place", .column "place" "at", .column "place" "at"] ++ joined.map fun c =>
        .child (Query.joinName c.label c.id) c.id c.label
          ((volcanoCompiler.queryContext echoesTwice none).hasCursor c)) ∧
    ∃ before after, statement.sql =
      before ++ n.toHead.phrase.text (volcanoCompiler.bindings {}) ++ after := by
  have succeeds : ((volcanoCompiler.compileQuery echoesTwice {}).map fun _ => ()) = .ok () := by
    decide +kernel
  have row : ((volcanoCompiler.schema.table "volcanoes").map fun t =>
      Query.Context.fieldEntries
        (Query.Context.fields { volcanoes with children := [1, 2, 1] } t) ++
      (volcanoCompiler.queryContext echoesTwice none).forwarded
        { volcanoes with children := [1, 2, 1] }) =
      .ok [.column "place" "place", .column "place" "at", .column "place" "at"] := by
    decide +kernel
  have remote : ((volcanoCompiler.queryContext echoesTwice none).remoteEdge?
      { volcanoes with children := [1, 2, 1] } 1).isSome = true := by
    decide +kernel
  obtain ⟨statement, compiled, -⟩ := Outcome.map_eq_ok.mp succeeds
  obtain ⟨events, reads, rendered, skipped, passes⟩ :=
    skip_mask_exact volcanoCompiler echoesTwice {} statement compiled
  have root : (volcanoCompiler.queryContext echoesTwice none).Reached 0 :=
    .root List.mem_cons_self
  obtain ⟨n, begun, own⟩ := (rendered 0).mpr root
  obtain ⟨s, known, passed, text⟩ := passes n begun
  rw [own] at known
  cases Option.some.inj known
  obtain ⟨t, joined, found, entries⟩ := passed.entries
  obtain ⟨u, looked, row⟩ := Outcome.map_eq_ok.mp row
  cases Except.ok.inj (found.symm.trans looked)
  rw [row] at entries
  refine ⟨statement, events, n, compiled, reads, ?_, begun, own, ⟨joined, entries⟩, text⟩
  rw [skipped]
  exact ⟨{ volcanoes with children := [1, 2, 1] }, root, rfl, List.mem_cons_self, remote⟩

end Lateral
