import Lateral.Mutation.Write
import Lateral.Proofs.Outcome

/-!
What the construction of a mutation's tree can do. Each function that takes part has one law with
all that its success says; a property of whole trees then follows from the cases of one induction.
-/

namespace Lateral.Mutation
open Outcome

variable {s : Schema} {d : Draft} {e : Edge} {st st' : State}

structure LinkMade (s : Schema) (d : Draft) (e : Edge) (st : State) (f : String × Json) (l : Link)
    (st' : State) : Prop where
  id : l.id = st.next
  kind : l.kind = if disconnectKeys.contains f.1 then .disconnect else .connect
  allowed : l.kind = .disconnect → d.kind = .update
  filter : linkFilter s d.table f.2 = .ok l.filter
  writable : e.isOneToMany → d.table.isWritable
  state : st' = { st with next := st.next + 1 }

theorem requireWritable_eq_ok {t : Table} {u : Unit} :
    t.requireWritable = .ok u ↔ t.isWritable := by
  unfold Table.requireWritable
  split <;> simp_all

theorem link_made {f : String × Json} {l : Link} (run : link s d e st f = .ok (l, st')) :
    LinkMade s d e st f l st' := by
  unfold link at run
  simp only [check_when_eq_ok, bind_eq_ok, pure_eq_ok, throw_eq_ok, imp_false,
    requireWritable_eq_ok, Prod.mk.injEq] at run
  obtain ⟨allowed, filter, taken, writable, rfl, rfl⟩ := run
  refine ⟨rfl, rfl, ?_, taken, writable, rfl⟩
  intro removes
  by_contra other
  exact allowed ⟨removes, other⟩

inductive LinksMade (s : Schema) (d : Draft) (e : Edge) :
    State → List (String × Json) → List Link → State → Prop where
  | nil (st : State) : LinksMade s d e st [] [] st
  | cons {st st₁ st₂ : State} {f : String × Json} {rest : List (String × Json)} {l : Link}
      {ls : List Link} (first : LinkMade s d e st f l st₁)
      (others : LinksMade s d e st₁ rest ls st₂) : LinksMade s d e st (f :: rest) (l :: ls) st₂

theorem links_made {fields : List (String × Json)} {ls : List Link}
    (run : links s d e st fields = .ok (ls, st')) : LinksMade s d e st fields ls st' := by
  induction fields generalizing st ls with
  | nil =>
    simp only [links, Except.ok.injEq, Prod.mk.injEq] at run
    obtain ⟨rfl, rfl⟩ := run
    exact .nil st
  | cons f rest ih =>
    simp only [links, bind_eq_ok, pure_eq_ok, Prod.mk.injEq] at run
    obtain ⟨⟨l, st₁⟩, first, ⟨ls, st₂⟩, others, rfl, rfl⟩ := run
    exact .cons (link_made first) (ih others)

structure ChildMade (s : Schema) (d : Draft) (st : State) (f : String × Json) (c : Draft)
    (st' : State) : Prop where
  single : d.payload.array = false
  table : s.table f.1 = .ok c.table
  edge : ∃ e, c.edge = some e ∧ s.edge f.1 d.table.name = .ok e ∧ e.isRemote = false
  writable : c.table.isWritable
  fresh : c.table.key ∉ st.written
  id : c.id = st.next
  kind : c.kind = childKind d.kind
  path : c.path = d.path ++ [f.1]
  payload : Payload.ofJson f.2 = .ok c.payload
  record : c.kind = .update → c.payload.array = false
  state : st' = ⟨st.next + 1, c.table.key :: st.written⟩

theorem child_made {f : String × Json} {small : f.2.size < d.weight}
    {c : { c : Draft // c.weight < d.weight }} (run : child s d st f small = .ok (c, st')) :
    ChildMade s d st f c.1 st' := by
  unfold child at run
  simp only [check_eq_ok, bind_eq_ok] at run
  obtain ⟨single, t, table, e, edge, ⟨⟩, writable, near, fresh, run⟩ := run
  split at run
  · simp [throw_eq_ok] at run
  · rename_i payload read
    simp only [check_eq_ok, pure_eq_ok, Prod.mk.injEq] at run
    obtain ⟨record, rfl, rfl⟩ := run
    refine ⟨by simpa using single, table, ⟨e, rfl, edge, by simpa using near⟩,
      requireWritable_eq_ok.mp writable, by simpa using fresh, rfl, rfl, rfl, read, ?_, rfl⟩
    intro updates
    by_contra bulk
    exact record ⟨by simpa using bulk, updates⟩

inductive ChildrenMade (s : Schema) (d : Draft) :
    State → Option Filter → List (String × Json) → List Draft → Option Filter → State → Prop where
  | nil (st : State) (filter : Option Filter) : ChildrenMade s d st filter [] [] filter st
  | rootFilter {st st' : State} {filter filter' : Option Filter} {f : String × Json}
      {rest : List (String × Json)} {cs : List Draft} (key : f.1 = whereKey)
      (updates : d.kind = .update) (root : d.path = [])
      (others : ChildrenMade s d st filter rest cs filter' st') :
      ChildrenMade s d st filter (f :: rest) cs filter' st'
  | ownFilter {st st' : State} {filter filter' : Option Filter} {f : String × Json}
      {rest : List (String × Json)} {cs : List Draft} {own : Filter} (key : f.1 = whereKey)
      (updates : d.kind = .update) (nested : d.path ≠ [])
      (taken : Filter.ofPayload s d.table f.2 = .ok own)
      (others : ChildrenMade s d st (some own) rest cs filter' st') :
      ChildrenMade s d st filter (f :: rest) cs filter' st'
  | child {st st₁ st₂ : State} {filter filter' : Option Filter} {f : String × Json}
      {rest : List (String × Json)} {c : Draft} {cs : List Draft}
      (other : ¬ (f.1 = whereKey ∧ d.kind = .update)) (first : ChildMade s d st f c st₁)
      (others : ChildrenMade s d st₁ filter rest cs filter' st₂) :
      ChildrenMade s d st filter (f :: rest) (c :: cs) filter' st₂

theorem children_made {filter filter' : Option Filter} {fields : List (String × Json)}
    {small : ∀ f ∈ fields, f.2.size < d.weight} {cs : List { c : Draft // c.weight < d.weight }}
    (run : children s d st filter fields small = .ok (cs, filter', st')) :
    ChildrenMade s d st filter fields (cs.map Subtype.val) filter' st' := by
  induction fields generalizing st filter cs with
  | nil =>
    simp only [children, Except.ok.injEq, Prod.mk.injEq] at run
    obtain ⟨rfl, rfl, rfl⟩ := run
    exact .nil st filter
  | cons f rest ih =>
    rw [children] at run
    split at run
    · rename_i narrows
      split at run
      · rename_i root
        exact .rootFilter narrows.1 narrows.2 (List.isEmpty_iff.mp root) (ih run)
      · rename_i nested
        obtain ⟨own, taken, others⟩ := bind_eq_ok.mp run
        exact .ownFilter narrows.1 narrows.2 (fun root => nested (List.isEmpty_iff.mpr root)) taken
          (ih others)
    · rename_i other
      simp only [bind_eq_ok, pure_eq_ok, Prod.mk.injEq] at run
      obtain ⟨⟨c, st₁⟩, first, ⟨cs, filter₁, st₂⟩, others, rfl, rfl, rfl⟩ := run
      exact .child other (child_made first) (ih others)

def Draft.linkCount (d : Draft) : Nat := d.nested.countP fun f => isLinkKey f.1

theorem nested_isLinkKey (links : d.linkCount = d.payload.fields.length) {f : String × Json}
    (member : f ∈ d.nested) : isLinkKey f.1 = true := by
  have all_links : d.nested.countP (fun f => isLinkKey f.1) = d.nested.length := by
    change d.linkCount = _
    have upper : d.linkCount ≤ d.nested.length := List.countP_le_length
    have lower : d.nested.length ≤ d.payload.fields.length := List.length_filter_le ..
    omega
  exact List.countP_eq_length.mp all_links f member

inductive LastFirst (P : Draft → State → Write → State → Prop) :
    List Draft → State → List Write → State → Prop where
  | nil (st : State) : LastFirst P [] st [] st
  | cons {st st₁ st₂ : State} {d : Draft} {ds : List Draft} {w : Write} {ws : List Write}
      (others : LastFirst P ds st ws st₁) (first : P d st₁ w st₂) :
      LastFirst P (d :: ds) st (w :: ws) st₂

theorem lastFirst_mem {P : Draft → State → Write → State → Prop} {ds : List Draft} {st st' : State}
    {ws : List Write} (all : LastFirst P ds st ws st') {w : Write} (member : w ∈ ws) :
    ∃ d ∈ ds, ∃ before after, P d before w after := by
  induction all with
  | nil => cases member
  | cons _ first ih =>
    rcases List.mem_cons.mp member with rfl | later
    · exact ⟨_, List.mem_cons_self .., _, _, first⟩
    · obtain ⟨d, among, found⟩ := ih later
      exact ⟨d, List.mem_cons_of_mem _ among, found⟩

theorem foldrM_lastFirst {P : Draft → State → Write → State → Prop} {Q : Draft → Prop}
    {drafts : List (Subtype Q)} {ws : List Write}
    (each : ∀ (c : Subtype Q) st w st', expand s c.1 st = .ok (w, st') → P c.1 st w st')
    (run : drafts.foldrM (fun c (ws, st) => do
      let (w, st) ← expand s c.1 st
      return (w :: ws, st)) ([], st) = .ok (ws, st')) :
    LastFirst P (drafts.map Subtype.val) st ws st' := by
  induction drafts generalizing ws st' with
  | nil =>
    simp only [List.foldrM_nil, pure_eq_ok, Prod.mk.injEq] at run
    obtain ⟨rfl, rfl⟩ := run
    exact .nil st
  | cons c rest ih =>
    simp only [List.foldrM_cons, bind_eq_ok, pure_eq_ok, Prod.mk.injEq] at run
    obtain ⟨⟨ws, st₁⟩, others, ⟨w, st₂⟩, first, rfl, rfl⟩ := run
    exact .cons (ih others) (each c st₁ w st₂ first)

/-- A property of expansions holds if it does of every group of links, and of rows whenever it holds
of all that lies directly below them. -/
theorem expand_induction {P : Draft → State → Write → State → Prop}
    (linked : ∀ {d e st ls st'}, d.edge = some e → 0 < d.linkCount →
      d.linkCount = d.payload.fields.length → LinksMade s d e st d.nested ls st' →
      P d st (.links ⟨d.id, d.table, e, ls⟩) st')
    (written : ∀ {d st drafts filter st₁ writes st₂}, d.linkCount = 0 →
      ChildrenMade s d st none d.nested drafts filter st₁ → LastFirst P drafts st₁ writes st₂ →
      P d st (.rows ⟨d.id, d.kind, d.table, d.path, d.payload, d.edge, filter⟩ writes) st₂)
    {w : Write} (run : expand s d st = .ok (w, st')) : P d st w st' := by
  -- the weights of drafts decrease, which the function's own induction hides
  induction d, st using expand.induct s generalizing w st' with
  | case1 d st nested count =>
    rename_i some_link root
    rw [expand, if_pos some_link] at run
    simp [root, throw_eq_ok] at run
  | case2 d st nested count some_link e =>
    rename_i edge mixed
    rw [expand, if_pos some_link] at run
    simp only [edge, check_eq_ok] at run
    exact absurd mixed run.1
  | case3 d st nested count some_link e =>
    rename_i edge all_links
    rw [expand, if_pos some_link] at run
    simp only [edge, check_eq_ok, bind_eq_ok, pure_eq_ok, Prod.mk.injEq] at run
    obtain ⟨-, ⟨ls, st₁⟩, made, rfl, rfl⟩ := run
    exact linked edge some_link (not_ne_iff.mp all_links) (links_made made)
  | case4 d st nested count =>
    rename_i no_link below
    rw [expand, if_neg no_link] at run
    simp only [bind_eq_ok, pure_eq_ok, Prod.mk.injEq] at run
    obtain ⟨⟨drafts, filter, st₁⟩, made, ⟨writes, st₂⟩, run, rfl, rfl⟩ := run
    refine written (Nat.eq_zero_of_not_pos no_link) (children_made made) ?_
    exact foldrM_lastFirst (fun c st w st' first => below c st first) run

theorem build_expanded {kind : RowKind} {t : Table} {value : Json} {chain : Chain}
    (built : build s kind t value = .ok chain) :
    ∃ root last, root.id = 0 ∧ root.kind = kind ∧ root.table = t ∧ root.path = [] ∧
      root.edge = none ∧ Payload.ofJson value = .ok root.payload ∧
      expand s root ⟨1, [t.key]⟩ = .ok (.rows chain.root chain.children, last) := by
  unfold build at built
  split at built
  · simp [throw_eq_ok] at built
  · rename_i payload read
    obtain ⟨⟨w, last⟩, run, built⟩ := bind_eq_ok.mp built
    cases w with
    | links g => simp [throw_eq_ok] at built
    | rows rows children =>
      simp only [pure_eq_ok] at built
      subst built
      exact ⟨_, last, rfl, rfl, rfl, rfl, rfl, read, run⟩

theorem expand_rows {r : Rows} {writes : List Write}
    (run : expand s d st = .ok (.rows r writes, st')) :
    ∃ filter, r = ⟨d.id, d.kind, d.table, d.path, d.payload, d.edge, filter⟩ := by
  let Keeps (d : Draft) (_ : State) (w : Write) (_ : State) : Prop :=
    ∀ r writes, w = .rows r writes →
      ∃ filter, r = ⟨d.id, d.kind, d.table, d.path, d.payload, d.edge, filter⟩
  have keeps : Keeps d st (.rows r writes) st' := by
    refine expand_induction ?_ ?_ run
    · intro d e st ls st' _ _ _ _ r writes same
      cases same
    · intro d st drafts filter st₁ writes st₂ _ _ _ r others same
      cases same
      exact ⟨filter, rfl⟩
  exact keeps r writes rfl

theorem build_root {kind : RowKind} {t : Table} {value : Json} {chain : Chain}
    (built : build s kind t value = .ok chain) :
    chain.root.id = 0 ∧ chain.root.kind = kind ∧ chain.root.table = t ∧ chain.root.path = [] ∧
      chain.root.edge = none ∧ Payload.ofJson value = .ok chain.root.payload := by
  obtain ⟨draft, last, id, same_kind, table, path, edge, payload, run⟩ := build_expanded built
  obtain ⟨filter, root⟩ := expand_rows run
  rw [root]
  exact ⟨id, same_kind, table, path, edge, payload⟩

end Lateral.Mutation
