import Lateral.Mutation.Chain
import Lateral.Proofs.Agreement
import Lateral.Proofs.Numbering
import Lateral.Proofs.Worklist

/-!
The worklist of a mutation and its tree. The loop comes to an end for every schema, table and data:
it is refused for the reason that the tree is refused for, or its items are the writes of the tree,
each at the position that is its number.
-/

namespace Lateral

def Write.id : Write → Nat
  | .rows r _ => r.id
  | .links g => g.id

namespace Mutation
open Outcome

section Items

def Draft.item (d : Draft) (parent : Option Nat) : Item where
  id := d.id
  kind := .rows d.kind
  table := d.table
  path := d.path
  payload := d.payload
  parent := parent
  edge := d.edge

def rowsItem (r : Rows) (parent : Option Nat) (children : List Nat) : Item where
  id := r.id
  kind := .rows r.kind
  table := r.table
  path := r.path
  payload := r.payload
  parent := parent
  edge := r.edge
  children := children
  filter := r.filter

def groupItem (g : LinkGroup) (parent : Option Nat) (path : List String) (payload : Payload) :
    Item where
  id := g.id
  kind := .union
  table := g.table
  path := path
  payload := payload
  parent := parent
  edge := some g.edge
  children := g.links.map Link.id

def linkItem (owner : Nat) (t : Table) (e : Edge) (path : List String) (l : Link) : Item where
  id := l.id
  kind := .link l.kind
  table := t
  path := path
  payload := ⟨[], false⟩
  parent := some owner
  edge := some e
  filter := some l.filter

end Items

/-- The items of a write and of all below it stand at the positions of their numbers. -/
inductive Laid (items : List Item) : Option Nat → Write → Prop where
  | rows {parent : Option Nat} {r : Rows} {children : List Write}
      (own : items[r.id]? = some (rowsItem r parent (children.map Write.id)))
      (below : ∀ c ∈ children, Laid items (some r.id) c) : Laid items parent (.rows r children)
  | links {parent : Option Nat} {g : LinkGroup} {path : List String} {payload : Payload}
      (own : items[g.id]? = some (groupItem g parent path payload))
      (each : ∀ l ∈ g.links, items[l.id]? = some (linkItem g.id g.table g.edge path l)) :
      Laid items parent (.links g)

theorem ids_subset_idsOf {w : Write} {ws : List Write} (member : w ∈ ws) :
    w.ids ⊆ Write.idsOf ws := by
  induction ws with
  | nil => cases member
  | cons first rest ih =>
    rw [Write.idsOf]
    rcases List.mem_cons.mp member with rfl | later
    · exact List.subset_append_left ..
    · exact List.Subset.trans (ih later) (List.subset_append_right ..)

theorem Laid.congr {items items' : List Item} {parent : Option Nat} {w : Write}
    (laid : Laid items parent w) (same : ∀ n ∈ w.ids, items'[n]? = items[n]?) :
    Laid items' parent w := by
  induction laid with
  | @rows parent r children own _ ih =>
    refine .rows ?_ fun c member => ih c member fun n among => ?_
    · rw [same r.id (by simp [Write.ids]), own]
    · exact same n (by simp [Write.ids, ids_subset_idsOf member among])
  | @links parent g path payload own each =>
    rw [← same g.id (by simp [Write.ids])] at own
    refine .links own fun l member => ?_
    have among : l.id ∈ g.links.map Link.id := List.mem_map_of_mem member
    rw [same l.id (by simp [Write.ids, among]), each l member]

def Worklist.state (w : Worklist) : State := ⟨w.items.length, w.written⟩

/-- An item has got further children and another filter, and no other item has changed. -/
structure Adopted (n : Nat) (i : Item) (w : Worklist) (ids : List Nat) (filter : Option Filter)
    (w' : Worklist) : Prop where
  length : w.items.length ≤ w'.items.length
  frame : ∀ m < w.items.length, m ≠ n → w'.items[m]? = w.items[m]?
  own : w'.items[n]? = some { i with children := i.children ++ ids, filter := filter }

namespace Adopted

variable {n : Nat} {i : Item} {w w₁ w₂ : Worklist}

theorem none (found : w.items[n]? = some i) : Adopted n i w [] i.filter w := by
  refine ⟨Nat.le_refl _, fun _ _ _ => rfl, ?_⟩
  rw [found, List.append_nil]

theorem push (found : w.items[n]? = some i) (child : Item) {pending : List Nat}
    {written : List String} :
    Adopted n i w [w.items.length] i.filter ⟨(w.push n child).items, pending, written⟩ := by
  have inside := (List.getElem?_eq_some_iff.mp found).1
  refine ⟨?_, ?_, ?_⟩
  · rw [Worklist.push_length]
    exact Nat.le_succ _
  · intro m less other
    rw [Worklist.push, List.getElem?_append_left (by simpa using less), List.getElem?_modify_ne]
    exact other.symm
  · rw [Worklist.push, List.getElem?_append_left (by simpa using inside), List.getElem?_modify_eq,
      found]
    rfl

theorem narrow (found : w.items[n]? = some i) (filter : Filter) :
    Adopted n i w [] (some filter) (w.amend n fun i => { i with filter := some filter }) := by
  refine ⟨?_, ?_, ?_⟩
  · exact Nat.le_of_eq (Worklist.amend_length _).symm
  · intro m _ other
    rw [Worklist.amend, List.getElem?_modify_ne]
    exact other.symm
  · rw [Worklist.amend, List.getElem?_modify_eq, found, List.append_nil]
    rfl

theorem trans {ids ids' : List Nat} {filter filter' : Option Filter}
    (first : Adopted n i w ids filter w₁)
    (next : Adopted n { i with children := i.children ++ ids, filter := filter } w₁ ids' filter'
      w₂) :
    Adopted n i w (ids ++ ids') filter' w₂ where
  length := Nat.le_trans first.length next.length
  frame := by
    intro m less other
    rw [next.frame m (Nat.lt_of_lt_of_le less first.length) other, first.frame m less other]
  own := by
    rw [next.own, List.append_assoc]

theorem last (found : w.items[n]? = some i) {child : Item} {pending : List Nat}
    {written : List String} {j : Item} {ids : List Nat} {filter : Option Filter}
    (placed : child.id = w.items.length)
    (next : Adopted n j ⟨(w.push n child).items, pending, written⟩ ids filter w₂) :
    w₂.items[w.items.length]? = some child := by
  have inside := (List.getElem?_eq_some_iff.mp found).1
  rw [next.frame w.items.length (by rw [Worklist.push_length]; exact Nat.lt_succ_self _)
    (Nat.ne_of_gt inside), Worklist.push_last, ← placed]

end Adopted

section Level

variable {s : Schema} {d : Draft} {e : Edge} {parent : Option Nat} {w : Worklist} {i : Item}

theorem visitLink_agree (edge : d.edge = some e) (f : String × Json) :
    Agree (fun w' x => w' = w.push d.id (linkItem d.id d.table e d.path x.1) ∧
        x.1.id = w.items.length ∧ x.2 = ⟨w.items.length + 1, w.written⟩)
      (w.visitLink s d.id (d.item parent) f) (link s d e w.state f) := by
  have kinds : ((d.item parent).kind = .rows .insert ∨ (d.item parent).kind = .rows .upsert) ↔
      d.kind ≠ .update := by
    unfold Draft.item
    cases d.kind <;> simp
  have pushed (kind : LinkKind) (filter : Filter) :
      w.push d.id ((d.item parent).ofLink d.id kind filter) =
        w.push d.id (linkItem d.id d.table e d.path ⟨w.items.length, kind, filter⟩) := by
    simp only [Worklist.push, Item.ofLink, linkItem, Draft.item, edge]
  have related : (d.item parent).edge.any Edge.isOneToMany = e.isOneToMany := by
    simp only [Draft.item, edge, Option.any_some]
  unfold Worklist.visitLink link
  simp only [kinds, related]
  refine Agree.check fun _ => ?_
  refine Agree.bind_same _ fun filter _ => ?_
  split
  · exact Agree.bind_same _ fun _ _ => .ok ⟨pushed _ filter, rfl, rfl⟩
  · exact .ok ⟨pushed _ filter, rfl, rfl⟩

theorem visitChild_agree {f : String × Json} {small : f.2.size < d.weight} :
    Agree (fun w' x => w' = ⟨(w.push d.id (x.1.1.item (some d.id))).items,
          w.items.length :: w.pending, x.1.1.table.key :: w.written⟩ ∧
        x.1.1.id = w.items.length ∧ x.1.1.edge ≠ none ∧
        x.2 = ⟨w.items.length + 1, x.1.1.table.key :: w.written⟩)
      (w.visitChild s d.id (d.item parent) f) (child s d w.state f small) := by
  unfold Worklist.visitChild child
  refine Agree.check fun _ => ?_
  refine Agree.bind_same _ fun t _ => ?_
  refine Agree.bind_same _ fun e _ => ?_
  refine Agree.bind_same _ fun _ _ => ?_
  refine Agree.check fun _ => Agree.check fun _ => ?_
  dsimp only
  split
  · rename_i e read
    rw [read]
    exact .error e
  · rename_i payload read
    -- the draft holds a proof about its data, so the reading is replaced in the loop alone
    have after (next : Payload → Except Error Worklist) :
        (Payload.ofJson f.2 >>= next) = next payload := by
      rw [read]
      rfl
    rw [after]
    exact Agree.check fun _ => .ok ⟨rfl, rfl, Option.some_ne_none e, rfl⟩

structure LinksLaid (d : Draft) (e : Edge) (i : Item) (w w' : Worklist) (x : List Link × State) :
    Prop where
  adopted : Adopted d.id i w (x.1.map Link.id) i.filter w'
  state : x.2 = w'.state
  pending : w'.pending = w.pending
  each : ∀ l ∈ x.1, w'.items[l.id]? = some (linkItem d.id d.table e d.path l)

theorem visit_link {f : String × Json} (key : isLinkKey f.1 = true) :
    w.visit s d.id (d.item parent) f = w.visitLink s d.id (d.item parent) f := by
  have other : ¬ (f.1 = whereKey ∧ (d.item parent).kind = .rows .update) := by
    rintro ⟨narrows, -⟩
    rw [narrows] at key
    exact absurd key (by decide)
  rw [Worklist.visit, if_neg other, if_pos key]

theorem visits_links (parent : Option Nat) (edge : d.edge = some e) {fields : List (String × Json)}
    (keys : ∀ f ∈ fields, isLinkKey f.1 = true) (found : w.items[d.id]? = some i) :
    Agree (LinksLaid d e i w) (fields.foldlM (Worklist.visit s d.id (d.item parent)) w)
      (links s d e w.state fields) := by
  induction fields generalizing w i with
  | nil => exact .ok ⟨.none found, rfl, rfl, List.forall_mem_nil _⟩
  | cons f rest ih =>
    rw [List.foldlM_cons, visit_link (keys f (List.mem_cons_self ..)), links]
    refine (visitLink_agree edge f).bind ?_
    rintro _ ⟨l, st⟩ ⟨rfl, placed, rfl⟩
    have first : Adopted d.id i w [w.items.length] i.filter (w.push d.id _) :=
      .push found (linkItem d.id d.table e d.path l)
    have state : (⟨w.items.length + 1, w.written⟩ : State) =
        (w.push d.id (linkItem d.id d.table e d.path l)).state := by
      rw [Worklist.state, Worklist.push_length]
      rfl
    dsimp only
    rw [state]
    refine (ih (fun f member => keys f (List.mem_cons_of_mem _ member)) first.own).bind_right ?_
    rintro w' ⟨ls, st⟩ others
    refine .ok ⟨?_, others.state, others.pending, ?_⟩
    · have both := first.trans others.adopted
      rw [← placed] at both
      exact both
    · intro m member
      rcases List.mem_cons.mp member with rfl | later
      · rw [placed]
        exact others.adopted.last found placed
      · exact others.each m later

/-- The drafts below a draft, each at its place and pending, the last one first. -/
structure ChildrenLaid (d : Draft) (i : Item) (w w' : Worklist)
    (x : List { c : Draft // c.weight < d.weight } × Option Filter × State) : Prop where
  adopted : Adopted d.id i w (x.1.map fun c => c.1.id) x.2.1 w'
  state : x.2.2 = w'.state
  pending : w'.pending = (x.1.map fun c => c.1.id).reverse ++ w.pending
  each : ∀ c ∈ x.1, w'.items[c.1.id]? = some (c.1.item (some d.id))
  related : ∀ c ∈ x.1, c.1.edge ≠ none

theorem visits_children (parent : Option Nat) {fields : List (String × Json)}
    (small : ∀ f ∈ fields, f.2.size < d.weight)
    (keys : ∀ f ∈ fields, isLinkKey f.1 = false) (found : w.items[d.id]? = some i) :
    Agree (ChildrenLaid d i w) (fields.foldlM (Worklist.visit s d.id (d.item parent)) w)
      (children s d w.state i.filter fields small) := by
  induction fields generalizing w i with
  | nil => exact .ok ⟨.none found, rfl, rfl, List.forall_mem_nil _, List.forall_mem_nil _⟩
  | cons f rest ih =>
    have updates : (d.item parent).kind = .rows .update ↔ d.kind = .update := by simp [Draft.item]
    have rest_keys := fun g member => keys g (List.mem_cons_of_mem f member)
    have rest_small := fun g member => small g (List.mem_cons_of_mem f member)
    rw [List.foldlM_cons, Worklist.visit, children]
    simp only [updates]
    split
    · change Agree _ ((if d.path.isEmpty then _ else _) >>= _) _
      split
      · exact ih rest_small rest_keys found
      · change Agree _ ((Filter.ofPayload s d.table f.2 >>= _) >>= _) _
        rw [bind_assoc]
        refine Agree.bind_same _ fun own _ => ?_
        have narrowed := Adopted.narrow found own
        have state : (w.amend d.id fun i => { i with filter := some own }).state = w.state := by
          rw [Worklist.state, Worklist.amend_length]
          rfl
        rw [← state]
        refine (ih rest_small rest_keys narrowed.own).imp fun w' x others => ?_
        exact ⟨narrowed.trans others.adopted, others.state, others.pending, others.each,
          others.related⟩
    · rw [if_neg (by simp [keys f (List.mem_cons_self ..)])]
      refine visitChild_agree.bind ?_
      rintro _ ⟨c, st⟩ ⟨rfl, placed, related, next⟩
      dsimp only at placed related next ⊢
      have first : Adopted d.id i w [w.items.length] i.filter
          ⟨(w.push d.id (c.1.item (some d.id))).items, w.items.length :: w.pending,
            c.1.table.key :: w.written⟩ := .push found (c.1.item (some d.id))
      have state : st = Worklist.state ⟨(w.push d.id (c.1.item (some d.id))).items,
          w.items.length :: w.pending, c.1.table.key :: w.written⟩ := by
        rw [next, Worklist.state, Worklist.push_length]
      rw [state]
      refine (ih rest_small rest_keys first.own).bind_right ?_
      rintro w' ⟨cs, filter, st'⟩ others
      refine .ok ⟨?_, others.state, ?_, ?_, ?_⟩
      · have both := first.trans others.adopted
        rw [← placed] at both
        exact both
      · rw [others.pending, List.map_cons, List.reverse_cons, placed, List.append_assoc]
        rfl
      · intro c' member
        rcases List.mem_cons.mp member with rfl | later
        · rw [placed]
          exact others.adopted.last found placed
        · exact others.each c' later
      · intro c' member
        rcases List.mem_cons.mp member with rfl | later
        · exact related
        · exact others.related c' later

end Level

/-- From this worklist the loop comes to the outcome of a computation: to the same refusal, or to a
worklist that is related to what is returned. -/
inductive Settles {α : Type} (s : Schema) (w : Worklist) (R : Worklist → α → Prop) :
    Except Error α → Prop where
  | ok {k : Nat} {w' : Worklist} {a : α} (turns : (turn s)^[k] (.running w) = .running w')
      (related : R w' a) : Settles s w R (.ok a)
  | error {k : Nat} {e : Error} (turns : (turn s)^[k] (.running w) = .stopped (.error e)) :
      Settles s w R (.error e)

namespace Settles

variable {α β : Type} {s : Schema} {w : Worklist} {R : Worklist → α → Prop}
  {S : Worklist → β → Prop} {x : Except Error α}

theorem here {a : α} (related : R w a) : Settles s w R (pure a) :=
  have none : (turn s)^[0] (.running w) = .running w := rfl
  .ok none related

theorem bind {f : α → Except Error β} (first : Settles s w R x)
    (next : ∀ w' a, x = .ok a → R w' a → Settles s w' S (f a)) : Settles s w S (x >>= f) := by
  cases first with
  | error turns => exact .error turns
  | @ok j w' a turns related =>
    have later := next w' a rfl related
    change Settles s w S (f a)
    generalize f a = y at later ⊢
    cases later with
    | @ok k w'' b turns' related' =>
      refine .ok (k := k + j) ?_ related'
      rw [Function.iterate_add_apply, turns, turns']
    | @error k e turns' =>
      refine .error (k := k + j) ?_
      rw [Function.iterate_add_apply, turns, turns']

theorem look {n : Nat} {rest : List Nat} {i : Item} (next : w.pending = n :: rest)
    (found : w.items[n]? = some i)
    (both : Agree R (Worklist.look s n i { w with pending := rest }) x) : Settles s w R x := by
  have turned : (turn s)^[1] (.running w) =
      .of (Worklist.look s n i { w with pending := rest }) := by
    simp only [Function.iterate_one, turn, next, found]
  generalize Worklist.look s n i { w with pending := rest } = y at both turned
  cases both with
  | ok related => exact .ok turned related
  | error e => exact .error turned

theorem stops (settled : Settles s w R x) (last : ∀ w' a, R w' a → w'.pending = []) :
    ∃ k outcome, (turn s)^[k] (.running w) = .stopped outcome ∧
      Agree (fun items a => ∃ w', w'.items = items ∧ R w' a) outcome x := by
  cases settled with
  | @ok k w' a turns related =>
    refine ⟨k + 1, .ok w'.items, ?_, .ok ⟨w', rfl, related⟩⟩
    rw [Function.iterate_succ_apply', turns, turn, last w' a related]
  | @error k e turns => exact ⟨k, .error e, turns, .error e⟩

end Settles

/-- The write of a draft is laid out, and nothing else that was there has changed. -/
structure Expanded (w : Worklist) (d : Draft) (parent : Option Nat) (rest : List Nat)
    (w' : Worklist) (x : Write × State) : Prop where
  state : x.2 = w'.state
  pending : w'.pending = rest
  frame : ∀ n < w.items.length, n ≠ d.id → w'.items[n]? = w.items[n]?
  laid : Laid w'.items parent x.1

/-- Wherever the draft is next, the loop comes to the outcome of its expansion. -/
def Draft.Settles (s : Schema) (d : Draft) : Prop :=
  ∀ (parent : Option Nat) (w : Worklist) (rest : List Nat), (parent = none ↔ d.edge = none) →
    w.pending = d.id :: rest → w.items[d.id]? = some (d.item parent) →
    Mutation.Settles s w (Expanded w d parent rest) (expand s d w.state)

structure LevelLaid (w : Worklist) (ids : List Nat) (parent : Nat) (rest : List Nat) (w' : Worklist)
    (x : List Write × State) : Prop where
  state : x.2 = w'.state
  pending : w'.pending = rest
  frame : ∀ n < w.items.length, n ∉ ids → w'.items[n]? = w.items[n]?
  ids : x.1.map Write.id = ids
  laid : ∀ c ∈ x.1, Laid w'.items (some parent) c

section Expansion

variable {s : Schema} {d : Draft} {w : Worklist} {rest : List Nat}

theorem expand_id {st st' : State} {x : Write} (run : expand s d st = .ok (x, st')) :
    x.id = d.id := by
  let Keeps (d : Draft) (_ : State) (x : Write) (_ : State) : Prop := x.id = d.id
  have keeps : Keeps d st x st' := by
    refine expand_induction ?_ ?_ run
    · intro d e st ls st' _ _ _ _
      rfl
    · intro d st drafts filter st₁ writes st₂ _ _ _
      rfl
  exact keeps

/-- The last draft of a level is the first to be looked into. -/
theorem settles_level {m parent : Nat} {drafts : List { c : Draft // c.weight < m }}
    (each : ∀ c ∈ drafts, c.1.Settles s)
    (next : w.pending = (drafts.map fun c => c.1.id).reverse ++ rest)
    (found : ∀ c ∈ drafts, w.items[c.1.id]? = some (c.1.item (some parent)))
    (related : ∀ c ∈ drafts, c.1.edge ≠ none) (once : (drafts.map fun c => c.1.id).Nodup) :
    Settles s w (LevelLaid w (drafts.map fun c => c.1.id) parent rest)
      (drafts.foldrM (fun c (ws, st) => do
        let (w, st) ← expand s c.1 st
        return (w :: ws, st)) ([], w.state)) := by
  induction drafts generalizing rest with
  | nil => exact .here ⟨rfl, next, fun _ _ _ => rfl, rfl, List.forall_mem_nil _⟩
  | cons c ds ih =>
    obtain ⟨fresh, once⟩ := List.nodup_cons.mp once
    have place := found c (List.mem_cons_self ..)
    have inside := (List.getElem?_eq_some_iff.mp place).1
    have popped : w.pending = (ds.map fun c => c.1.id).reverse ++ c.1.id :: rest := by
      rw [next, List.map_cons, List.reverse_cons, List.append_assoc]
      rfl
    rw [List.foldrM_cons]
    refine (ih (fun c member => each c (List.mem_cons_of_mem _ member)) popped
      (fun c member => found c (List.mem_cons_of_mem _ member))
      (fun c member => related c (List.mem_cons_of_mem _ member)) once).bind ?_
    rintro w₁ ⟨ws, st⟩ run others
    have state : st = w₁.state := others.state
    subst state
    -- the drafts before have used up no number of those that are there already
    obtain ⟨grows, numbered⟩ := lastFirst_ids
      (foldrM_lastFirst (fun c st w st' run => expand_numbered run) run)
    have own : w₁.items[c.1.id]? = some (c.1.item (some parent)) := by
      rw [others.frame _ inside fresh, place]
    have rooted : some parent = none ↔ c.1.edge = none := by
      simp [related c (List.mem_cons_self ..)]
    refine (each c (List.mem_cons_self ..) (some parent) w₁ rest rooted others.pending own).bind ?_
    rintro w₂ ⟨x, st⟩ run₂ first
    refine .here ⟨first.state, first.pending, ?_, ?_, ?_⟩
    · intro n less outside
      obtain ⟨other, outside⟩ := not_or.mp (mt List.mem_cons.mpr outside)
      rw [first.frame n (Nat.lt_of_lt_of_le less grows) other, others.frame n less outside]
    · rw [List.map_cons, List.map_cons, others.ids, expand_id run₂]
    · intro x' member
      rcases List.mem_cons.mp member with rfl | later
      · exact first.laid
      · refine (others.laid x' later).congr fun n among => ?_
        rcases List.mem_append.mp (numbered.mem_iff.mp (ids_subset_idsOf later among)) with
          earlier | between
        · rw [List.map_map] at earlier
          obtain ⟨c', member', rfl⟩ := List.mem_map.mp earlier
          have place' := found c' (List.mem_cons_of_mem _ member')
          refine first.frame _ ?_ fun same => fresh (List.mem_map.mpr ⟨c', member', same⟩)
          exact Nat.lt_of_lt_of_le (List.getElem?_eq_some_iff.mp place').1 grows
        · have range : w.items.length ≤ n ∧ n < w₁.items.length := by
            obtain ⟨lower, upper⟩ := List.mem_range'_1.mp between
            have grows : w.items.length ≤ w₁.items.length := grows
            change w.items.length ≤ n at lower
            change n < w.items.length + (w₁.items.length - w.items.length) at upper
            omega
          exact first.frame n range.2 (Nat.ne_of_gt (Nat.lt_of_lt_of_le inside range.1))

theorem look_links (some_link : 0 < d.linkCount) (parent : Option Nat) :
    w.look s d.id (d.item parent) =
      if parent.isNone then .error (.invalidPayload .rootLink)
      else if d.linkCount ≠ d.payload.fields.length then
        .error (.invalidPayload (.mixedLinks (String.intercalate "." d.path)))
      else d.nested.foldlM (Worklist.visit s d.id (d.item parent))
        (w.amend d.id fun i => { i with kind := .union }) := by
  have count : 0 < (d.item parent).nested.countP fun f => isLinkKey f.1 := some_link
  unfold Worklist.look
  dsimp only
  rw [if_pos count]
  rfl

theorem look_children (no_link : d.linkCount = 0) (parent : Option Nat) :
    w.look s d.id (d.item parent) =
      d.nested.foldlM (Worklist.visit s d.id (d.item parent)) w := by
  have count : ¬ 0 < (d.item parent).nested.countP fun f => isLinkKey f.1 :=
    Nat.not_lt_of_le (Nat.le_of_eq no_link)
  unfold Worklist.look
  dsimp only
  rw [if_neg count]
  rfl

theorem expand_links {st : State} (some_link : 0 < d.linkCount) :
    expand s d st =
      match d.edge with
      | none => .error (.invalidPayload .rootLink)
      | some e =>
        if d.linkCount ≠ d.payload.fields.length then
          .error (.invalidPayload (.mixedLinks (String.intercalate "." d.path)))
        else links s d e st d.nested >>= fun x => pure (.links ⟨d.id, d.table, e, x.1⟩, x.2) := by
  rw [expand]
  change (if 0 < d.linkCount then _ else _) = _
  rw [if_pos some_link]
  rfl

theorem expand_children {st : State} (no_link : d.linkCount = 0) :
    expand s d st =
      (children s d st none d.nested fun _ h => d.size_lt_of_mem_nested h) >>= fun x =>
        x.1.foldrM (fun c (ws, st) => do
          let (w, st) ← expand s c.1 st
          return (w :: ws, st)) ([], x.2.2) >>= fun y =>
        pure (.rows ⟨d.id, d.kind, d.table, d.path, d.payload, d.edge, x.2.1⟩ y.1, y.2) := by
  rw [expand]
  change (if 0 < d.linkCount then _ else _) = _
  rw [if_neg (Nat.not_lt_of_le (Nat.le_of_eq no_link))]

section Next

variable {parent : Option Nat} (next : w.pending = d.id :: rest)
  (found : w.items[d.id]? = some (d.item parent))
include next found

theorem settles_links (rooted : parent = none ↔ d.edge = none) (some_link : 0 < d.linkCount) :
    Settles s w (Expanded w d parent rest) (expand s d w.state) := by
  have looked := look_links (s := s) (w := { w with pending := rest }) some_link parent
  rw [expand_links some_link]
  cases edge : d.edge with
  | none =>
    rw [rooted.mpr edge] at looked found
    refine .look next found ?_
    rw [looked]
    exact .error _
  | some e =>
    have nested : parent.isNone = false := by
      rw [Option.isNone_eq_false_iff, Option.isSome_iff_ne_none]
      intro root
      rw [rooted.mp root] at edge
      cases edge
    rw [nested] at looked
    dsimp only
    split
    · rename_i mixed
      refine .look next found ?_
      rw [looked, if_neg Bool.false_ne_true, if_pos mixed]
      exact .error _
    · rename_i whole
      rw [if_neg Bool.false_ne_true, if_neg whole] at looked
      have keys : ∀ f ∈ d.nested, isLinkKey f.1 = true :=
        fun f member => nested_isLinkKey (not_ne_iff.mp whole) member
      have union : (Worklist.amend { w with pending := rest } d.id
          fun i => { i with kind := .union }).items[d.id]? =
            some { d.item parent with kind := .union } := by
        rw [Worklist.amend, List.getElem?_modify_eq, found]
        rfl
      have state : (Worklist.amend { w with pending := rest } d.id
          fun i => { i with kind := .union }).state = w.state := by
        rw [Worklist.state, Worklist.amend_length]
        rfl
      have made := visits_links (s := s) parent edge keys union
      rw [← looked, state] at made
      refine (Settles.look next found made).bind ?_
      rintro w' ⟨ls, st⟩ _ laid
      refine .here ⟨laid.state, laid.pending, ?_, ?_⟩
      · intro n less other
        rw [laid.adopted.frame n (by rwa [Worklist.amend_length]) other, Worklist.amend,
          List.getElem?_modify_ne]
        exact other.symm
      · have own := laid.adopted.own
        simp only [Draft.item, edge, List.nil_append] at own
        exact .links own laid.each

theorem settles_children (no_link : d.linkCount = 0)
    (below : ∀ c : Draft, c.weight < d.weight → c.Settles s) :
    Settles s w (Expanded w d parent rest) (expand s d w.state) := by
  have looked := look_children (s := s) (w := { w with pending := rest }) no_link parent
  have keys : ∀ f ∈ d.nested, isLinkKey f.1 = false := by
    intro f member
    have none := List.countP_eq_zero.mp no_link f member
    simpa using none
  have inside := (List.getElem?_eq_some_iff.mp found).1
  have made : Agree _ _ (children s d w.state none d.nested fun _ h => d.size_lt_of_mem_nested h) :=
    visits_children (w := { w with pending := rest }) parent
      (fun _ h => d.size_lt_of_mem_nested h) keys found
  rw [← looked] at made
  rw [expand_children no_link]
  refine (Settles.look next found made).bind ?_
  rintro w₁ ⟨drafts, filter, st⟩ run level
  have state : st = w₁.state := level.state
  subst state
  -- the children have the numbers that were next, so the draft itself is not among them
  obtain ⟨-, numbered⟩ := children_ids (children_made run)
  have ids : (drafts.map fun c => c.1.id) = idsBetween w.items.length w₁.items.length := by
    rw [List.map_map] at numbered
    exact numbered
  have once : (drafts.map fun c => c.1.id).Nodup := by
    rw [ids]
    exact List.nodup_range'
  have beyond {n : Nat} (less : n < w.items.length) : n ∉ drafts.map fun c => c.1.id := by
    intro member
    rw [ids] at member
    have := (List.mem_range'_1.mp member).1
    omega
  refine (settles_level (fun c _ => below c.1 c.2) level.pending level.each level.related
    once).bind ?_
  rintro w₂ ⟨ws, st⟩ _ lower
  refine .here ⟨lower.state, lower.pending, ?_, .rows ?_ lower.laid⟩
  · intro n less other
    rw [lower.frame n (Nat.lt_of_lt_of_le less level.adopted.length) (beyond less),
      level.adopted.frame n less other]
  · change w₂.items[d.id]? = _
    rw [lower.frame d.id (Nat.lt_of_lt_of_le inside level.adopted.length) (beyond inside),
      level.adopted.own, lower.ids]
    rfl

end Next

/-- Every draft settles: by the weights of drafts, those below it do. -/
theorem draft_settles (s : Schema) (d : Draft) : d.Settles s := by
  induction weight : d.weight using Nat.strongRecOn generalizing d with
  | ind m ih =>
    subst weight
    intro parent w rest rooted next found
    by_cases some_link : 0 < d.linkCount
    · exact settles_links next found rooted some_link
    · refine settles_children next found (Nat.eq_zero_of_not_pos some_link) ?_
      intro c less
      exact ih c.weight less c rfl

end Expansion

section Build

variable {s : Schema} {kind : RowKind} {t : Table} {value : Json}

theorem build_refused {e : Error} (read : Payload.ofJson value = .error e) :
    build s kind t value = .error e := by
  unfold build
  split
  · rename_i e' read'
    rw [read'] at read
    cases read
    rfl
  · rename_i payload read'
    rw [read'] at read
    cases read

/-- The tree is that of the root's draft, which is what the loop starts with. -/
theorem build_draft (s : Schema) (kind : RowKind) (t : Table) {payload : Payload}
    (read : Payload.ofJson value = .ok payload) :
    ∃ root : Draft, root.id = 0 ∧ root.edge = none ∧ root.item none = .root kind t payload ∧
      build s kind t value = expand s root ⟨1, [t.key]⟩ >>= fun x =>
        match x.1 with
        | .rows rows children => pure ⟨rows, children⟩
        | .links _ => throw (.invalidPayload .rootLink) := by
  unfold build
  split
  · rename_i e read'
    rw [read'] at read
    cases read
  · rename_i payload' read'
    rw [read'] at read
    cases read
    let root : Draft :=
      { id := 0, kind := kind, table := t, path := [], payload := payload, edge := none
        weight := value.size, small := fun _ member => Payload.size_lt_of_mem read' member }
    refine ⟨root, rfl, rfl, rfl, ?_⟩
    refine congrArg (expand s root ⟨1, [t.key]⟩ >>= ·) (funext fun x => ?_)
    obtain ⟨x, st⟩ := x
    cases x <;> rfl

theorem expand_root_rows {d : Draft} {st st' : State} {x : Write} (root : d.edge = none)
    (run : expand s d st = .ok (x, st')) : ∃ r ws, x = .rows r ws := by
  by_cases some_link : 0 < d.linkCount
  · rw [expand_links some_link, root] at run
    cases run
  · rw [expand_children (Nat.eq_zero_of_not_pos some_link)] at run
    simp only [bind_eq_ok, pure_eq_ok, Prod.mk.injEq] at run
    obtain ⟨_, _, _, _, rfl, -⟩ := run
    exact ⟨_, _, rfl⟩

theorem numbered_length {d : Draft} {keys : List String} {x : Write} {st : State}
    (numbered : Numbered d ⟨1, keys⟩ x st) : x.ids.length = st.next := by
  obtain ⟨grows, ids⟩ := numbered
  have length := ids.length_eq
  simp only [idsBetween, List.length_cons, List.length_range'] at length
  change 1 ≤ st.next at grows
  omega

theorem build_settles (s : Schema) (kind : RowKind) (t : Table) {payload : Payload}
    (read : Payload.ofJson value = .ok payload) :
    Settles s ⟨[.root kind t payload], [0], [t.key]⟩
      (fun w chain => w.pending = [] ∧ Laid w.items none chain.tree ∧
        w.items.length = chain.ids.length)
      (build s kind t value) := by
  obtain ⟨root, first, unrelated, item, built⟩ := build_draft s kind t read
  have settled : Settles s ⟨[.root kind t payload], [0], [t.key]⟩
      (Expanded ⟨[.root kind t payload], [0], [t.key]⟩ root none [])
      (expand s root ⟨1, [t.key]⟩) := by
    refine draft_settles s root none _ [] (by simp [unrelated]) ?_ ?_
    · rw [first]
    · rw [first, item]
      rfl
  rw [built]
  refine settled.bind ?_
  rintro w ⟨x, st⟩ run expanded
  obtain ⟨r, ws, rfl⟩ := expand_root_rows unrelated run
  have count := numbered_length (expand_numbered run)
  have state : st = w.state := expanded.state
  rw [state] at count
  exact .here ⟨expanded.pending, expanded.laid, count.symm⟩

end Build

theorem Laid.inside {items : List Item} {parent : Option Nat} {w v : Write} {p : Rows}
    (laid : Laid items parent w) (hangs : w.HasBelow p v) : Laid items (some p.id) v := by
  induction hangs generalizing parent with
  | here member =>
    cases laid with
    | rows _ below => exact below _ member
  | deeper member _ ih =>
    cases laid with
    | rows _ below => exact ih (below _ member)

/-- The text of data, key by key from the whole to its place, as one row or as many. -/
def dataText (table : String) (path : List String) (array : Bool) : String :=
  (if array then "json_populate_recordset" else "json_populate_record") ++ "(NULL::" ++
    Sql.name table ++ ", i.j" ++ String.join (path.map fun key => "->" ++ Text.quote key) ++ ") t"

theorem input_sql (r : Rows) (columns : List Assignment) :
    ∃ beside, (input r).sql columns = beside ++ dataText r.table.name r.path r.payload.array := by
  refine ⟨Sql.name Input.name ++ " i, " ++ String.join
    ((distinct (columns.filterMap fun a => a.source.table?)).map fun t => Sql.name t ++ ", "), ?_⟩
  unfold Input.sql dataText input
  simp only [String.append_assoc]

/-- The items of a worklist that has been gone through are the writes of a chain. -/
structure Stored (value : Json) (items : List Item) (chain : Chain) : Prop where
  arena : Arena value items
  laid : Laid items none chain.tree
  count : items.length = chain.ids.length

theorem worklist_stops (s : Schema) (kind : RowKind) (t : Table) (value : Json) :
    ∃ turns outcome, (turn s)^[turns] (start kind t value) = .stopped outcome ∧
      Agree (Stored value) outcome (build s kind t value) := by
  cases read : Payload.ofJson value with
  | error e =>
    refine ⟨0, .error e, ?_, ?_⟩
    · simp only [Function.iterate_zero, id_eq, start, read]
    · rw [build_refused read]
      exact .error e
  | ok payload =>
    obtain ⟨k, outcome, stops, both⟩ :=
      (build_settles s kind t read).stops fun _ _ laid => laid.1
    have begun : start kind t value = .running ⟨[.root kind t payload], [0], [t.key]⟩ := by
      simp only [start, read]
    rw [← begun] at stops
    refine ⟨k, outcome, stops, ?_⟩
    have sound := turns_sound s kind t value k
    rw [stops] at sound
    generalize build s kind t value = chain at both ⊢
    cases both with
    | error e => exact .error e
    | ok related =>
      obtain ⟨w, rfl, -, laid, count⟩ := related
      exact .ok ⟨sound, laid, count⟩

/-- The commands that write the rows of a chain take them from where their fields were read. -/
structure Represents (value : Json) (items : List Item) (chain : Chain) : Prop
    extends Stored value items chain where
  inputs : ∀ r parent children, Step.rows r parent children ∈ chain.steps →
    r.payload.FoundAt value (input r).path ∧ (input r).array = r.payload.array ∧
      ∀ columns, ∃ beside, (input r).sql columns =
        beside ++ dataText r.table.name (input r).path (input r).array

theorem Stored.represents {value : Json} {items : List Item} {chain : Chain}
    (stored : Stored value items chain) : Represents value items chain := by
  refine ⟨stored, ?_⟩
  intro r parent children member
  have placed : ∃ above, Laid items above (.rows r children) := by
    rcases chain_step_stands member with root | stands
    · cases root
      exact ⟨none, stored.laid⟩
    · cases stands with
      | rows hangs => exact ⟨_, stored.laid.inside hangs⟩
  obtain ⟨above, placed⟩ := placed
  cases placed with
  | rows own _ => exact ⟨stored.arena.addressed _ _ own rfl, rfl, input_sql r⟩

end Mutation

open Mutation Outcome

theorem worklist_addresses_payload (s : Schema) (kind : RowKind) (t : Table) (value : Json) :
    ∃ turns outcome, (turn s)^[turns] (start kind t value) = .stopped outcome ∧
      Agree (Represents value) outcome (build s kind t value) := by
  obtain ⟨turns, outcome, stopped, both⟩ := worklist_stops s kind t value
  exact ⟨turns, outcome, stopped, both.imp fun _ _ => Stored.represents⟩

end Lateral
