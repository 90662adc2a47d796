import Lateral.Proofs.BulkPayloads

/-!
The data that the writes below the root of a mutation come from. Each was found under a key of the
rows above it: rows take the value there as their data, and a group of links has one link for every
field of it. An update below the root is narrowed to what its data holds as its where.
-/

namespace Lateral
open Mutation Outcome

/-- The where in the data of rows. If there are several, the last counts. -/
def Rows.ownWhere? (r : Rows) : Option Json :=
  (r.payload.fields.filter r.table.holdsData).reverse.lookup whereKey

structure Link.TakenFrom (s : Schema) (t : Table) (f : String × Json) (l : Link) : Prop where
  key : isLinkKey f.1 = true
  holds : t.holdsData f = true
  filter : linkFilter s t f.2 = .ok l.filter
  kind : l.kind = .disconnect ↔ disconnectKeys.contains f.1 = true

structure Write.TakenFrom (s : Schema) (p : Rows) (f : String × Json) (w : Write) : Prop where
  member : f ∈ p.payload.fields
  holds : p.table.holdsData f = true
  data : isLinkKey f.1 = false
  other : p.kind = .update → f.1 ≠ whereKey
  single : p.payload.array = false
  table : s.table f.1 = .ok w.table
  edge : ∃ e, s.edge f.1 p.table.name = .ok e ∧ w.edge? = some e ∧ e.isRemote = false
  rows : ∀ r children, w = .rows r children →
    r.kind = childKind p.kind ∧ r.path = p.path ++ [f.1] ∧ Payload.ofJson f.2 = .ok r.payload
  updated : ∀ r children, w = .rows r children → r.kind = .update →
    r.payload.array = false ∧ r.ownWhere?.mapM (Filter.ofPayload s r.table) = .ok r.filter
  links : ∀ g, w = .links g → ∃ q, Payload.ofJson f.2 = .ok q ∧
    List.Forall₂ (Link.TakenFrom s g.table) q.fields g.links

section Origins

variable {s : Schema} {d : Draft} {st st' : State}

theorem children_filter {filter filter' : Option Filter} {fields : List (String × Json)}
    {cs : List Draft} (made : ChildrenMade s d st filter fields cs filter' st')
    (updates : d.kind = .update) (nested : d.path ≠ []) :
    ∃ own, (fields.reverse.lookup whereKey).mapM (Filter.ofPayload s d.table) = .ok own ∧
      filter' = own.or filter := by
  induction made with
  | nil => exact ⟨none, rfl, rfl⟩
  | rootFilter _ _ root => exact absurd root nested
  | @ownFilter st st' filter filter' f rest cs own key _ _ taken _ ih =>
    obtain ⟨later, read, rfl⟩ := ih
    have single : [f].lookup whereKey = some f.2 := by
      rw [← key]
      exact List.lookup_cons_self
    rw [List.reverse_cons, List.lookup_append, single]
    cases found : rest.reverse.lookup whereKey with
    | none =>
      rw [found] at read
      cases read
      refine ⟨some own, ?_, rfl⟩
      simp [taken]
    | some value =>
      rw [found] at read
      obtain ⟨last, read, rfl⟩ := map_eq_ok.mp read
      refine ⟨some last, ?_, rfl⟩
      simp [read]
  | @child st st₁ st₂ filter filter' f rest c cs other _ _ ih =>
    have apart : [f].lookup whereKey = none := by
      have key : whereKey ≠ f.1 := fun same => other ⟨same.symm, updates⟩
      simpa [List.lookup_eq_none_iff] using key
    rw [List.reverse_cons, List.lookup_append, apart, Option.or_none]
    exact ih

theorem children_mem {filter filter' : Option Filter} {fields : List (String × Json)}
    {cs : List Draft} (made : ChildrenMade s d st filter fields cs filter' st') {f : String × Json}
    (member : f ∈ fields) (other : ¬ (f.1 = whereKey ∧ d.kind = .update)) :
    ∃ c ∈ cs, ∃ before after, ChildMade s d before f c after := by
  induction made with
  | nil => cases member
  | rootFilter key updates _ _ ih | ownFilter key updates _ _ _ ih =>
    rcases List.mem_cons.mp member with rfl | later
    · exact absurd ⟨key, updates⟩ other
    · exact ih later
  | child _ first _ ih =>
    rcases List.mem_cons.mp member with rfl | later
    · exact ⟨_, List.mem_cons_self .., _, _, first⟩
    · obtain ⟨c, among, found⟩ := ih later
      exact ⟨c, List.mem_cons_of_mem _ among, found⟩

theorem nested_eq_fields (links : d.linkCount = d.payload.fields.length) :
    d.nested = d.payload.fields := by
  refine List.filter_sublist.eq_of_length ?_
  have lower : d.linkCount ≤ d.nested.length := List.countP_le_length
  have upper : d.nested.length ≤ d.payload.fields.length := List.length_filter_le ..
  change d.nested.length = _
  omega

theorem links_taken {e : Edge} {fields : List (String × Json)} {ls : List Link}
    (made : LinksMade s d e st fields ls st')
    (each : ∀ f ∈ fields, isLinkKey f.1 = true ∧ d.table.holdsData f = true) :
    List.Forall₂ (Link.TakenFrom s d.table) fields ls := by
  induction made with
  | nil => exact .nil
  | cons first _ ih =>
    obtain ⟨⟨key, holds⟩, others⟩ := List.forall_mem_cons.mp each
    refine .cons ⟨key, holds, first.filter, ?_⟩ (ih others)
    rw [first.kind]
    split <;> simp_all

structure Write.Originates (s : Schema) (d : Draft) (w : Write) : Prop where
  table : w.table = d.table
  edge : w.edge? = d.edge
  rows : ∀ r children, w = .rows r children →
    r.kind = d.kind ∧ r.path = d.path ∧ r.payload = d.payload
  narrowed : ∀ r children, w = .rows r children → d.kind = .update → d.path ≠ [] →
    r.ownWhere?.mapM (Filter.ofPayload s r.table) = .ok r.filter
  links : ∀ g, w = .links g → List.Forall₂ (Link.TakenFrom s g.table) d.payload.fields g.links
  below : ∀ p v, w.HasBelow p v → ∃ f, v.TakenFrom s p f

theorem Write.Originates.takenFrom {p : Rows} {w : Write} {c : Draft} {f : String × Json}
    (origin : w.Originates s c) (first : ChildMade s d st f c st') (nested : f ∈ d.nested)
    (unlinked : d.linkCount = 0) (other : ¬ (f.1 = whereKey ∧ d.kind = .update))
    (kind : p.kind = d.kind) (table : p.table = d.table) (path : p.path = d.path)
    (payload : p.payload = d.payload) : w.TakenFrom s p f := by
  obtain ⟨member, holds⟩ := List.mem_filter.mp nested
  have below_root : c.path ≠ [] := by
    rw [first.path]
    simp
  constructor
  · rw [payload]
    exact member
  · rw [table]
    exact holds
  · exact Bool.eq_false_iff.mpr (List.countP_eq_zero.mp unlinked f nested)
  · intro updates key
    exact other ⟨key, kind.symm.trans updates⟩
  · rw [payload]
    exact first.single
  · rw [origin.table]
    exact first.table
  · obtain ⟨e, own, edge, near⟩ := first.edge
    rw [table]
    exact ⟨e, edge, origin.edge.trans own, near⟩
  · intro r children same
    obtain ⟨rowKind, rowPath, rowPayload⟩ := origin.rows r children same
    rw [rowKind, rowPath, rowPayload, kind, path]
    exact ⟨first.kind, first.path, first.payload⟩
  · intro r children same updates
    obtain ⟨rowKind, -, rowPayload⟩ := origin.rows r children same
    have updated : c.kind = .update := rowKind.symm.trans updates
    rw [rowPayload]
    exact ⟨first.record updated, origin.narrowed r children same updated below_root⟩
  · intro g same
    exact ⟨c.payload, first.payload, origin.links g same⟩

theorem expand_originates {w : Write} (run : expand s d st = .ok (w, st')) : w.Originates s d := by
  refine expand_induction (P := fun d _ w _ => w.Originates s d) ?_ ?_ run
  · intro d e st ls st' edge _ all made
    refine ⟨rfl, edge.symm, ?_, ?_, ?_, ?_⟩
    · intro r children same
      cases same
    · intro r children same
      cases same
    · rintro g ⟨⟩
      rw [← nested_eq_fields all]
      refine links_taken made fun f nested => ?_
      exact ⟨nested_isLinkKey all nested, (List.mem_filter.mp nested).2⟩
    · intro p v hangs
      cases hangs
  · intro d st drafts filter st₁ writes st₂ unlinked made below
    refine ⟨rfl, rfl, ?_, ?_, ?_, ?_⟩
    · rintro r children ⟨⟩
      exact ⟨rfl, rfl, rfl⟩
    · rintro r children ⟨⟩ updates nested
      obtain ⟨own, read, rfl⟩ := children_filter made updates nested
      rw [Option.or_none]
      exact read
    · intro g same
      cases same
    · intro p v hangs
      cases hangs with
      | deeper member inside =>
        obtain ⟨c, -, _, _, origin⟩ := lastFirst_mem below member
        exact origin.below p v inside
      | here member =>
        obtain ⟨c, listed, _, _, origin⟩ := lastFirst_mem below member
        obtain ⟨f, nested, other, _, _, first⟩ := children_key made listed
        exact ⟨f, origin.takenFrom first nested unlinked other rfl rfl rfl rfl⟩

theorem build_taken {kind : RowKind} {t : Table} {value : Json} {chain : Chain}
    (built : build s kind t value = .ok chain) {p : Rows} {w : Write}
    (hangs : chain.tree.HasBelow p w) : ∃ f, w.TakenFrom s p f := by
  obtain ⟨root, last, -, -, -, -, -, -, run⟩ := build_expanded built
  exact (expand_originates run).below p w hangs

end Origins

def changeQuiz : Request := .mutation .update "data" [{ Selection.ofTable 0 "quizzes" with
  filter := some (.leaf { column := "id", operator := .equals, operand := .int 7 }) }]

end Lateral
