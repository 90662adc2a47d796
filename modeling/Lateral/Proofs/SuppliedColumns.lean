import Lateral.Proofs.FilterScopes
import Lateral.Proofs.RenderedSelections
import Lateral.Proofs.SelectionPhrases

/-!
What is read from a base row source. Around it stand the row with its entries, the values that the
rows are ordered by, and the key of the cursor; inside the children stand the conditions that relate
them to it. Everything that any of these reads is among the outputs of the row source, and no two
outputs have one name.
-/

namespace Lateral

namespace Query
open Outcome

namespace Output

theorem add_names (outputs : List Output) (o : Output) (apart : (outputs.map name).Nodup) :
    ((add outputs o).map name).Nodup ∧
      ∀ x, x ∈ (add outputs o).map name ↔ x ∈ outputs.map name ∨ x = o.name := by
  unfold add
  by_cases listed : o.name ∈ outputs.map name
  · have known : (outputs.any fun p => decide (p.name = o.name)) = true := by
      simpa using listed
    rw [if_pos known]
    constructor
    · exact apart
    · intro x
      constructor
      · exact Or.inl
      · rintro (before | rfl)
        · exact before
        · exact listed
  · have unknown : ¬ (outputs.any fun p => decide (p.name = o.name)) = true := by
      simpa using listed
    rw [if_neg unknown, List.map_append, List.map_singleton]
    constructor
    · rw [List.nodup_append]
      refine ⟨apart, List.nodup_singleton _, ?_⟩
      intro a member b single same
      rw [List.mem_singleton.mp single] at same
      exact listed (same ▸ member)
    · intro x
      rw [List.mem_append, List.mem_singleton]

theorem merge_names (outputs : List Output) :
    ((merge outputs).map name).Nodup ∧
      ∀ x, x ∈ (merge outputs).map name ↔ x ∈ outputs.map name := by
  have from_any (start : List Output) (apart : (start.map name).Nodup) :
      ((outputs.foldl add start).map name).Nodup ∧
        ∀ x, x ∈ (outputs.foldl add start).map name ↔
          x ∈ start.map name ∨ x ∈ outputs.map name := by
    induction outputs generalizing start with
    | nil => exact ⟨apart, fun x => by simp⟩
    | cons o rest ih =>
      obtain ⟨once, added⟩ := add_names start o apart
      obtain ⟨distinct, members⟩ := ih (add start o) once
      refine ⟨distinct, ?_⟩
      intro x
      rw [List.foldl_cons, members, added, List.map_cons, List.mem_cons, or_assoc]
  obtain ⟨distinct, members⟩ := from_any [] List.nodup_nil
  refine ⟨distinct, ?_⟩
  intro x
  rw [merge, members]
  simp

end Output

def Node.source (n : Node) : String := Sql.numbered n.table n.id

def Node.supplied (n : Node) : List String := n.base.outputs.map Output.name

def RowEntry.refs (source : String) (entry : RowEntry) : List Sql.ColumnRef :=
  (entry.phrase source).columns

theorem RowEntry.refs_child (source join : String) (id : Nat) (label : String) (paged : Bool) :
    (RowEntry.child join id label paged).refs source =
      ⟨join, jsonName id⟩ :: if paged then [⟨join, cursorName id⟩] else [] := by
  cases paged <;> rfl

def Node.refs (n : Node) : List Sql.ColumnRef := n.toHead.phrase.columns

theorem Node.refs_eq (n : Node) : n.refs =
    n.entries.flatMap (RowEntry.refs n.source) ++
      (if n.singular then [] else n.orders.map fun o => ⟨n.source, o.1⟩) ++
      n.cursor.toList.map fun key => ⟨n.source, key⟩ := by
  have entries : n.toHead.rowPhrase.columns = n.entries.flatMap (RowEntry.refs n.source) :=
    n.columns_rowPhrase
  unfold refs Head.phrase
  cases n.singular <;>
    simp [entries, Head.columns_listPhrase, Head.columns_orderPhrase, Head.columns_cursorPhrase,
      source]

def Restriction.relatingRefs : Restriction → List Sql.ColumnRef
  | .related equation => equation.refs
  | .filter _ | .cursor .. => []

def BaseSource.relatingRefs (b : BaseSource) : List Sql.ColumnRef :=
  (b.join.map fun j => j.condition.refs).getD [] ++ b.restrictions.flatMap Restriction.relatingRefs

/-- The rows of the inner node are related to those of the outer one along an edge: by a column that
the outer one supplies, and otherwise by columns of the child's side and of the junction. -/
structure Node.RelatedBy (outer inner : Node) (e : Edge) : Prop where
  read : ⟨outer.source, e.right.column⟩ ∈ inner.base.relatingRefs
  supplied : e.right.column ∈ outer.supplied
  others : ∀ ref ∈ inner.base.relatingRefs, ref = ⟨outer.source, e.right.column⟩ ∨
    ref.source = e.left.table ∨ ∃ j, e.junction? = some j ∧ ref.source = j.table

theorem joinName_ne_numbered (label table : String) (child id : Nat) :
    joinName label child ≠ Sql.numbered table id := by
  intro same
  have digits := Sql.numbered_digits table id
  have spelled : (joinName label child).toList.reverse =
      'n' :: 'i' :: 'o' :: 'j' :: '_' :: (Sql.numbered label child).toList.reverse := by
    simp [joinName]
  have none : ('n' :: 'i' :: 'o' :: 'j' :: '_' ::
      (Sql.numbered label child).toList.reverse).takeWhile Char.isDigit = [] := rfl
  rw [← same, spelled, none] at digits
  exact Nat.toDigits_ne_nil digits.symm

namespace Findings

variable {ctx : Context} (found : Findings)

theorem supplied_nodup : (found.node ctx).supplied.Nodup := (Output.merge_names _).1

theorem extra_supplied {column : String} (member : column ∈ found.extra) :
    column ∈ (found.node ctx).supplied := by
  apply ((Output.merge_names _).2 column).mpr
  rw [List.map_append, List.mem_append]
  apply Or.inr
  exact List.mem_map.mpr ⟨.column column, List.mem_map_of_mem member, rfl⟩

theorem field_supplied {f : Field} {kind : FieldKind} (member : (f, kind) ∈ found.fields) :
    (Output.ofField f kind).name ∈ (found.node ctx).supplied := by
  apply ((Output.merge_names _).2 _).mpr
  rw [List.map_append, List.mem_append]
  apply Or.inl
  exact List.mem_map_of_mem (List.mem_map.mpr ⟨(f, kind), member, rfl⟩)

theorem link_supplied {l : Link} (member : l ∈ found.links) :
    l.parentColumn ∈ (found.node ctx).supplied := by
  apply found.extra_supplied
  simp only [Plan.extra, List.mem_append]
  exact Or.inl (Or.inl (Or.inl (List.mem_map_of_mem member)))

theorem cursor_supplied {key : Column} (paged : found.cursor = some key) :
    key.name ∈ (found.node ctx).supplied := by
  apply found.extra_supplied
  simp only [Plan.extra, List.mem_append, paged]
  exact Or.inr List.mem_cons_self

theorem order_supplied {order : String × Direction} (member : order ∈ found.orders) :
    order.1 ∈ (found.node ctx).supplied := by
  unfold Plan.orders Context.effectiveOrders at member
  cases paged : found.cursor with
  | some key =>
    rw [paged] at member
    rw [List.mem_singleton.mp member]
    exact found.cursor_supplied paged
  | none =>
    rw [paged] at member
    apply found.extra_supplied
    simp only [Plan.extra, List.mem_append]
    exact Or.inl (Or.inr (List.mem_map_of_mem member))

theorem entry_supplied {entry : RowEntry} (member : entry ∈ (found.node ctx).entries)
    {ref : Sql.ColumnRef} (read : ref ∈ entry.refs (found.node ctx).source)
    (own : ref.source = (found.node ctx).source) : ref.column ∈ (found.node ctx).supplied := by
  rcases List.mem_append.mp member with field | linked
  · obtain ⟨⟨f, kind⟩, among, rfl⟩ := List.mem_map.mp field
    rw [List.mem_singleton.mp read]
    exact found.field_supplied among
  · rcases List.mem_append.mp linked with remote | joined
    · obtain ⟨⟨child, e⟩, among, rfl⟩ := List.mem_map.mp remote
      obtain ⟨l, listed, left⟩ := List.mem_filterMap.mp among
      cases l with
      | joined => cases left
      | remote child e =>
        cases left
        rw [List.mem_singleton.mp read]
        exact found.link_supplied listed
    · obtain ⟨child, -, rfl⟩ := List.mem_map.mp joined
      -- A value of a child is read from the join with it, which goes by another name.
      have foreign : ref.source = joinName child.label child.id := by
        rw [RowEntry.refs_child] at read
        rcases List.mem_cons.mp read with rfl | cursor
        · rfl
        · split at cursor
          · rw [List.mem_singleton.mp cursor]
          · cases cursor
      rw [foreign] at own
      exact absurd own (joinName_ne_numbered child.label _ child.id _)

theorem refs_supplied {ref : Sql.ColumnRef} (read : ref ∈ (found.node ctx).refs)
    (own : ref.source = (found.node ctx).source) : ref.column ∈ (found.node ctx).supplied := by
  rw [Node.refs_eq, List.mem_append, List.mem_append] at read
  rcases read with (entry | order) | cursor
  · obtain ⟨entry, member, read⟩ := List.mem_flatMap.mp entry
    exact found.entry_supplied member read own
  · split at order
    · cases order
    · obtain ⟨o, member, rfl⟩ := List.mem_map.mp order
      exact found.order_supplied member
  · obtain ⟨key, member, rfl⟩ := List.mem_map.mp cursor
    rw [Option.mem_toList] at member
    obtain ⟨column, paged, rfl⟩ := Option.map_eq_some_iff.mp member
    exact found.cursor_supplied paged

end Findings

theorem BaseSource.relatingRefs_along {b : BaseSource} {e : Edge} {source : String}
    (joined : b.join = Sql.junctionJoin? e source)
    (related : b.restrictions.flatMap Restriction.relatingRefs =
      (Sql.edgeCondition e source).refs) :
    ⟨source, e.right.column⟩ ∈ b.relatingRefs ∧
      ∀ ref ∈ b.relatingRefs, ref = ⟨source, e.right.column⟩ ∨
        ref.source = e.left.table ∨ ∃ j, e.junction? = some j ∧ ref.source = j.table := by
  unfold relatingRefs
  rw [joined, related]
  unfold Sql.junctionJoin? Sql.edgeCondition
  cases through : e.junction? with
  | none =>
    simp only [Option.map_none, Option.getD_none, List.nil_append, Sql.Equation.mem_between_refs]
    constructor
    · exact Or.inr trivial
    · rintro ref (rfl | rfl)
      · exact Or.inr (Or.inl rfl)
      · exact Or.inl rfl
  | some j =>
    simp only [Option.map_some, Option.getD_some, List.mem_append, Sql.Equation.mem_between_refs]
    constructor
    · exact Or.inl (Or.inr trivial)
    · rintro ref ((rfl | rfl) | (rfl | rfl))
      · exact Or.inr (Or.inr ⟨j, rfl, rfl⟩)
      · exact Or.inl rfl
      · exact Or.inr (Or.inl rfl)
      · exact Or.inr (Or.inr ⟨j, rfl, rfl⟩)

namespace Context

variable {ctx : Context}

theorem restrictions_relating {s : Selection} {t : Table} {p : Parent} {cursor : Option Column}
    {restrictions : List Restriction}
    (run : ctx.restrictions s t (some p) cursor = .ok restrictions) :
    restrictions.flatMap Restriction.relatingRefs = (Sql.edgeCondition p.edge p.source).refs := by
  unfold Context.restrictions at run
  split at run
  · cases run
    simp [Restriction.relatingRefs]
  · simp only [bind_eq_ok, pure_eq_ok] at run
    obtain ⟨filters, each, rfl⟩ := run
    have filtered : filters.flatMap Restriction.relatingRefs = [] := by
      rw [List.flatMap_eq_nil_iff]
      intro f member
      obtain ⟨filter, -, made⟩ := mapM_made each member
      obtain ⟨tokens, -, made⟩ := bind_eq_ok.mp made
      rw [← pure_eq_ok.mp made]
      rfl
    rw [List.flatMap_append, List.flatMap_append, filtered]
    split
    · simp [Restriction.relatingRefs]
    · simp [Restriction.relatingRefs]

theorem parent?_of_child {id : Nat} {s child : Selection} {t : Table} {e : Edge}
    (inside : child.parent = some id) (known : ctx.request.selections[id]? = some s)
    (table : ctx.schema.table s.table = .ok t)
    (edge : ctx.schema.edge? child.table s.table = some e) :
    ctx.parent? child = .ok (some ⟨Sql.numbered t.name id, e⟩) := by
  unfold parent?
  rw [inside]
  apply bind_eq_ok.mpr
  refine ⟨s, selection_eq_ok.mpr known, bind_eq_ok.mpr ⟨t, table, bind_eq_ok.mpr ⟨e, ?_, rfl⟩⟩⟩
  exact Schema.edge_eq_ok.mpr edge

theorem relatedBy_child {n m : Node} {s child : Selection} {e : Edge}
    (outer : ctx.node n.id = .ok n) (inner : ctx.node m.id = .ok m)
    (known : ctx.request.selections[n.id]? = some s)
    (found : ctx.request.selections[m.id]? = some child) (listed : m.id ∈ s.children)
    (inside : child.parent = some n.id)
    (edge : ctx.schema.edge? child.table s.table = some e) (joined : e.isRemote = false) :
    n.RelatedBy m e := by
  obtain ⟨above, made, above_node⟩ := node_found outer
  obtain ⟨below, made', below_node⟩ := node_found inner
  have own : above.selection = s := made.selection_eq known
  have own' : below.selection = child := made'.selection_eq found
  have named : n.table = above.table.name := by
    rw [above_node]
    rfl
  have table := made.table
  rw [own] at table
  -- The child finds the selection as its parent, under the name of its row source.
  have parent : below.parent = some ⟨n.source, e⟩ := by
    have looked := made'.parent
    rw [own', parent?_of_child inside known table edge, ← named] at looked
    exact (Except.ok.inj looked).symm
  have along : m.base.join = Sql.junctionJoin? e n.source := by
    rw [below_node]
    change below.parent.bind _ = _
    rw [parent]
    rfl
  have related : m.base.restrictions.flatMap Restriction.relatingRefs =
      (Sql.edgeCondition e n.source).refs := by
    have restricted := made'.restrictions
    rw [parent] at restricted
    rw [below_node]
    exact restrictions_relating restricted
  obtain ⟨read, others⟩ := BaseSource.relatingRefs_along along related
  refine ⟨read, ?_, others⟩
  -- The selection has the link to the child, and supplies the column that the link reads.
  obtain ⟨l, member, linked⟩ := mapM_mem made.links (own ▸ listed)
  obtain ⟨child', e', found', edge', left⟩ := link_eq_ok linked
  cases Option.some.inj (found.symm.trans found')
  rw [own] at edge'
  cases Option.some.inj (edge.symm.trans edge')
  rcases left with ⟨remote, -, -⟩ | ⟨-, rfl⟩
  · rw [joined] at remote
    cases remote
  · rw [above_node]
    exact above.link_supplied member

end Context

end Query

/-- A selection lists another one as its child exactly if that one names it as its parent. -/
def Request.Consistent (r : Request) : Prop :=
  ∀ (i j : Nat) (s c : Selection), r.selections[i]? = some s → r.selections[j]? = some c →
    (j ∈ s.children ↔ c.parent = some i)

/-- In every statement, the outputs of the base row source of a rendered selection have different
names. They hold every column that is read under the name of the row source around it, and the
column by which any child that is not left to the caller is related to it, be it in the condition on
the child's rows or in the join with a junction. What is read is read off the text: the statement
holds the phrases around the row source and of its rows as they are. -/
theorem base_supplies_every_read (c : Compiler) (r : Request) (given : Variables)
    (statement : Statement) (consistent : r.Consistent)
    (compiled : c.compile r given = .ok statement) :
    ∃ absorbed events, (c.queryContext r absorbed).Reads (c.bindings given) statement events ∧
      ∀ n, .enter n ∈ events →
        n.supplied.Nodup ∧
        (∀ ref ∈ n.refs, ref.source = n.source → ref.column ∈ n.supplied) ∧
        (∃ before between after, statement.sql =
          before ++ n.toHead.phrase.text (c.bindings given) ++ between ++
            n.base.rowsPhrase.text (c.bindings given) ++ after) ∧
        ∀ (s child : Selection) (e : Edge), r.selections[n.id]? = some s →
          child.id ∈ s.children → r.selections[child.id]? = some child →
          c.schema.edge? child.table s.table = some e → e.isRemote = false →
          (∃ m, .enter m ∈ events ∧ m.id = child.id) ∧
            ∀ m, .enter m ∈ events → m.id = child.id → n.RelatedBy m e := by
  obtain ⟨absorbed, events, reads⟩ := Compiler.compile_reads compiled
  obtain ⟨-, rendered⟩ := Query.Context.events_rendered reads.placed reads.walked
  have begins {n : Query.Node} (begun : .enter n ∈ events) :
      (c.queryContext r absorbed).Rendered (Query.enteredNodes events) n :=
    rendered n (Query.mem_enteredNodes.mpr begun)
  refine ⟨absorbed, events, reads, ?_⟩
  intro n begun
  have outer := (begins begun).worked
  obtain ⟨found, -, made⟩ := Query.Context.node_found outer
  refine ⟨?_, ?_, ?_, ?_⟩
  · rw [made]
    exact found.supplied_nodup
  · intro ref read own
    rw [made] at read own ⊢
    exact found.refs_supplied read own
  · obtain ⟨front, back, text⟩ := reads.open_text begun
    obtain ⟨between, after, opened⟩ := n.openSql_phrases (b := c.bindings given)
    refine ⟨front, between, after ++ back, ?_⟩
    rw [text, opened]
    simp only [String.append_assoc]
  · intro s child e known listed found edge joined
    constructor
    · -- A child that is not left to the caller is joined, and so it is rendered.
      have joins : child.id ∈ n.joined := by
        rw [(Query.Context.nodeOf_selection reads.placed known outer).joined, List.mem_filter]
        refine ⟨listed, ?_⟩
        have some_edge : (c.queryContext r absorbed).schema.edge? child.table s.table = some e :=
          edge
        have some_child : (c.queryContext r absorbed).request.selections[child.id]? = some child :=
          found
        simp [Query.Context.joins, Query.Context.isJoined, some_child, some_edge, joined]
      obtain ⟨m, member, same⟩ := (begins begun).inside child.id joins
      exact ⟨m, Query.mem_enteredNodes.mp member, same⟩
    · intro m begun' same
      have inner := (begins begun').worked
      have inside := (consistent n.id child.id s child known found).mp listed
      rw [← same] at found listed
      exact Query.Context.relatedBy_child outer inner known found listed inside edge joined

def humansAlone : Selection := { Selection.ofTable 0 "humans" with children := [1] }

def theirVolcanoes : Selection :=
  { Selection.ofTable 1 "volcanoes" with parent := some 0, fields := [.ofName "id"] }

def volcanoesByHuman : Request := .query [humansAlone, theirVolcanoes]

theorem volcanoesByHuman_supplied : ∃ s statement absorbed events n m,
    Schema.ofCatalog quizCatalog {} = .ok s ∧ volcanoesByHuman.Consistent ∧
    Compiler.compile ⟨s, {}⟩ volcanoesByHuman {} = .ok statement ∧
    (Compiler.queryContext ⟨s, {}⟩ volcanoesByHuman absorbed).Reads (Compiler.bindings ⟨s, {}⟩ {})
      statement events ∧
    .enter n ∈ events ∧ n.id = 0 ∧ .enter m ∈ events ∧ m.id = 1 ∧
    n.RelatedBy m ⟨.through ⟨"proofs", "volcano_id", "human_id"⟩, ⟨"volcanoes", "id", false⟩,
      ⟨"humans", "id", false⟩⟩ := by
  have facts : (Schema.ofCatalog quizCatalog {} >>= fun s =>
      (fun _ => s.edge? "volcanoes" "humans") <$> Compiler.compile ⟨s, {}⟩ volcanoesByHuman {}) =
      .ok (some ⟨.through ⟨"proofs", "volcano_id", "human_id"⟩, ⟨"volcanoes", "id", false⟩,
        ⟨"humans", "id", false⟩⟩) := by
    decide +kernel
  have consistent : volcanoesByHuman.Consistent := by
    intro i j s c known found
    rcases i with - | - | i
    · cases known
      rcases j with - | - | j
      · cases found
        decide
      · cases found
        decide
      · cases found
    · cases known
      rcases j with - | - | j
      · cases found
        decide
      · cases found
        decide
      · cases found
    · cases known
  obtain ⟨s, built, facts⟩ := Outcome.bind_eq_ok.mp facts
  obtain ⟨statement, compiled, edge⟩ := Outcome.map_eq_ok.mp facts
  obtain ⟨absorbed, events, reads, each⟩ :=
    base_supplies_every_read ⟨s, {}⟩ volcanoesByHuman {} statement consistent compiled
  obtain ⟨n, begun, own⟩ := (Query.Context.rendered_iff_reached reads.placed reads.walked 0).mpr
    (.root List.mem_cons_self)
  obtain ⟨-, -, -, children⟩ := each n (Query.mem_enteredNodes.mp begun)
  rw [own] at children
  obtain ⟨⟨m, inside, same⟩, related⟩ :=
    children humansAlone theirVolcanoes _ rfl List.mem_cons_self rfl edge rfl
  exact ⟨s, statement, absorbed, events, n, m, built, consistent, compiled, reads,
    Query.mem_enteredNodes.mp begun, own, inside, same, related m inside same⟩

end Lateral
