import Lateral.Proofs.Placement

/-!
The numbers of a mutation's writes. They are handed out while the tree is built, each once and
without a gap, and the order of the steps neither drops nor repeats one.
-/

namespace Lateral
open Mutation

mutual

def Write.ids : Write → List Nat
  | .rows r children => r.id :: Write.idsOf children
  | .links g => g.id :: g.links.map Link.id

def Write.idsOf : List Write → List Nat
  | [] => []
  | w :: rest => w.ids ++ Write.idsOf rest

end

def Chain.ids (c : Chain) : List Nat := c.root.id :: Write.idsOf c.children

def idsBetween (next next' : Nat) : List Nat := List.range' next (next' - next)

theorem idsBetween_append {a b c : Nat} (first : a ≤ b) (second : b ≤ c) :
    idsBetween a b ++ idsBetween b c = idsBetween a c := by
  obtain ⟨m, rfl⟩ := Nat.exists_eq_add_of_le first
  obtain ⟨n, rfl⟩ := Nat.exists_eq_add_of_le second
  have total : a + m + n - a = m + n := by omega
  simp [idsBetween, total]

theorem idsBetween_cons {a b : Nat} (less : a < b) :
    idsBetween a b = a :: idsBetween (a + 1) b := by
  have count : b - a = (b - (a + 1)) + 1 := by omega
  rw [idsBetween, count, List.range'_succ, idsBetween]

theorem links_ids {s : Schema} {d : Draft} {e : Edge} {st st' : State}
    {fields : List (String × Json)} {ls : List Link} (made : LinksMade s d e st fields ls st') :
    st.next ≤ st'.next ∧ ls.map Link.id = idsBetween st.next st'.next := by
  induction made with
  | nil st => simp [idsBetween]
  | cons first others ih =>
    have next := first.state
    subst next
    obtain ⟨grows, numbered⟩ := ih
    have less := Nat.lt_of_succ_le grows
    refine ⟨Nat.le_of_lt less, ?_⟩
    rw [List.map_cons, numbered, first.id, idsBetween_cons less]

theorem children_ids {s : Schema} {d : Draft} {st st' : State} {filter filter' : Option Filter}
    {fields : List (String × Json)} {cs : List Draft}
    (made : ChildrenMade s d st filter fields cs filter' st') :
    st.next ≤ st'.next ∧ cs.map Draft.id = idsBetween st.next st'.next := by
  induction made with
  | nil st filter => simp [idsBetween]
  | rootFilter key updates root others ih => exact ih
  | ownFilter key updates nested taken others ih => exact ih
  | child other first others ih =>
    have next := first.state
    subst next
    obtain ⟨grows, numbered⟩ := ih
    have less := Nat.lt_of_succ_le grows
    refine ⟨Nat.le_of_lt less, ?_⟩
    rw [List.map_cons, numbered, first.id, idsBetween_cons less]

/-- A write has the number of its draft, and all below it have those handed out meanwhile. -/
def Numbered (d : Draft) (st : State) (w : Write) (st' : State) : Prop :=
  st.next ≤ st'.next ∧ w.ids.Perm (d.id :: idsBetween st.next st'.next)

theorem lastFirst_ids {st st' : State} {ds : List Draft} {ws : List Write}
    (all : LastFirst Numbered ds st ws st') :
    st.next ≤ st'.next ∧
      (Write.idsOf ws).Perm (ds.map Draft.id ++ idsBetween st.next st'.next) := by
  induction all with
  | nil st => simp [idsBetween, Write.idsOf]
  | @cons st st₁ st₂ d ds w ws others first ih =>
    obtain ⟨grows, below⟩ := ih
    obtain ⟨grows', own⟩ := first
    refine ⟨Nat.le_trans grows grows', ?_⟩
    rw [Write.idsOf, ← idsBetween_append grows grows', List.map_cons, List.cons_append,
      ← List.append_assoc]
    exact (own.append below).trans ((List.perm_append_comm).cons d.id)

theorem expand_numbered {s : Schema} {d : Draft} {st st' : State} {w : Write}
    (run : expand s d st = .ok (w, st')) : Numbered d st w st' := by
  refine expand_induction ?_ ?_ run
  · intro d e st ls st' _ _ _ made
    obtain ⟨grows, numbered⟩ := links_ids made
    refine ⟨grows, ?_⟩
    rw [Write.ids, numbered]
  · intro d st drafts filter st₁ writes st₂ _ made below
    obtain ⟨grows, numbered⟩ := children_ids made
    obtain ⟨grows', others⟩ := lastFirst_ids below
    refine ⟨Nat.le_trans grows grows', ?_⟩
    rw [numbered, idsBetween_append grows grows'] at others
    exact others.cons d.id

theorem build_ids {s : Schema} {kind : RowKind} {t : Table} {value : Json} {chain : Chain}
    (built : build s kind t value = .ok chain) :
    chain.ids.Perm (List.range chain.ids.length) := by
  obtain ⟨root, last, first, -, -, -, -, -, run⟩ := build_expanded built
  obtain ⟨grows, numbered⟩ := expand_numbered run
  have all : chain.ids.Perm (List.range last.next) := by
    rw [first, ← idsBetween_cons (Nat.lt_of_succ_le grows), idsBetween] at numbered
    simpa [List.range_eq_range', Write.ids, Chain.ids] using numbered
  have count : chain.ids.length = last.next := by simpa using all.length_eq
  rwa [count]

mutual

theorem listed_ids (parent : Rows) : ∀ w : Write, (w.listed parent).map Step.id = w.ids
  | .rows r children => by
    rw [Write.listed, Write.ids, List.map_cons, listedOf_ids r children]
    rfl
  | .links g => by
    rw [Write.listed, Write.ids, List.map_cons, List.map_map]
    rfl

theorem listedOf_ids (parent : Rows) : ∀ ws : List Write,
    (Write.listedOf parent ws).map Step.id = Write.idsOf ws
  | [] => rfl
  | w :: rest => by
    rw [Write.listedOf, Write.idsOf, List.map_append, listed_ids parent w,
      listedOf_ids parent rest]

end

theorem chain_steps_ids (chain : Chain) : (chain.steps.map Step.id).Perm chain.ids := by
  have listed : chain.listed.map Step.id = chain.ids := by
    rw [Chain.listed, Chain.ids, List.map_cons, listedOf_ids]
    rfl
  rw [← listed]
  exact (chain_steps_perm chain).map Step.id

end Lateral
