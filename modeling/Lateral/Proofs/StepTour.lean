import Lateral.Proofs.Expansion
import Lateral.Proofs.WorklistTree

/-!
The order of a mutation's steps as a loop over a stack. An item that is entered leaves on the stack
the children that run before it, then itself, then its other children. On the items of a chain the
loop comes to an end, and puts them down in the order of the steps.
-/

namespace Lateral

namespace Mutation

inductive Visit where
  | enter (position : Nat)
  | emit (position : Nat)

def Item.runsFirst (i : Item) : Bool :=
  match i.kind with
  | .link _ => true
  | .rows .insert | .union => i.edge.any Edge.isOneToOne
  | .rows .upsert | .rows .update => false

inductive Tour where
  /-- The visits that are left, the next one first, and the positions that were put down. -/
  | running (stack : List Visit) (ordered : List Nat)
  | stopped (ordered : List Nat)
  /-- A position was looked up that is not there. -/
  | broken

namespace Tour

def children? (items : List Item) (positions : List Nat) : Option (List (Nat × Bool)) :=
  positions.mapM fun n => items[n]?.map fun i => (n, i.runsFirst)

def visits (n : Nat) (children : List (Nat × Bool)) : List Visit :=
  (children.filter Prod.snd).map (fun c => .enter c.1) ++
    .emit n :: (children.filter fun c => !c.2).map fun c => .enter c.1

def turn (items : List Item) : Tour → Tour
  | .running [] ordered => .stopped ordered
  | .running (.emit n :: rest) ordered => .running rest (ordered ++ [n])
  | .running (.enter n :: rest) ordered =>
    match items[n]?.bind fun i => children? items i.children with
    | some children => .running (visits n children ++ rest) ordered
    | none => .broken
  | tour => tour

/-- Whatever lies below these visits, the loop gets through them and puts down these positions. -/
def Settles (items : List Item) (stack : List Visit) (positions : List Nat) : Prop :=
  ∀ rest ordered, ∃ turns,
    (turn items)^[turns] (.running (stack ++ rest) ordered) =
      .running rest (ordered ++ positions)

section Settles

variable {items : List Item} {stack more : List Visit} {positions others : List Nat}

theorem settles_nil : Settles items [] [] := by
  intro rest ordered
  exact ⟨0, by rw [List.append_nil]; rfl⟩

theorem settles_append (first : Settles items stack positions)
    (next : Settles items more others) :
    Settles items (stack ++ more) (positions ++ others) := by
  intro rest ordered
  obtain ⟨j, to_more⟩ := first (more ++ rest) ordered
  obtain ⟨k, to_rest⟩ := next rest (ordered ++ positions)
  refine ⟨k + j, ?_⟩
  rw [List.append_assoc, Function.iterate_add_apply, to_more, to_rest, List.append_assoc]

theorem settles_emit (n : Nat) : Settles items [.emit n] [n] := fun _ _ => ⟨1, rfl⟩

theorem settles_enter {n : Nat} {i : Item} {children : List (Nat × Bool)}
    (found : items[n]? = some i) (known : children? items i.children = some children)
    (below : Settles items (visits n children) positions) :
    Settles items [.enter n] positions := by
  intro rest ordered
  obtain ⟨turns, settled⟩ := below rest ordered
  have entered : turn items (.running (.enter n :: rest) ordered) =
      .running (visits n children ++ rest) ordered := by
    simp only [turn, found, Option.bind_some, known]
  refine ⟨turns + 1, ?_⟩
  rw [List.singleton_append, Function.iterate_succ_apply, entered, settled]

end Settles

section Laid

variable {items : List Item}

theorem laid_runsFirst {parent : Option Nat} {w : Write} (laid : Laid items parent w) :
    items[w.id]?.map Item.runsFirst = some w.runsFirst := by
  cases laid with
  | @rows _ r children own _ =>
    rw [Write.id, own]
    cases kind : r.kind <;> simp [rowsItem, Item.runsFirst, Write.runsFirst, kind]
  | links own _ =>
    rw [Write.id, own]
    rfl

theorem children?_map {α : Type} {position : α → Nat} {first : α → Bool} {xs : List α}
    (each : ∀ x ∈ xs, items[position x]?.map Item.runsFirst = some (first x)) :
    children? items (xs.map position) = some (xs.map fun x => (position x, first x)) := by
  induction xs with
  | nil => rfl
  | cons x rest ih =>
    obtain ⟨i, found, own⟩ := Option.map_eq_some_iff.mp (each x List.mem_cons_self)
    have others := ih fun y member => each y (List.mem_cons_of_mem x member)
    unfold children? at others ⊢
    rw [List.map_cons, List.mapM_cons, others, found, List.map_cons, ← own]
    rfl

theorem settles_stepsOf (first : Bool) (r : Rows) (children : List Write)
    (each : ∀ c ∈ children, Settles items [.enter c.id] ((c.steps r).map Step.id)) :
    Settles items ((children.filter fun c => c.runsFirst = first).map fun c => .enter c.id)
      ((Write.stepsOf first r children).map Step.id) := by
  induction children with
  | nil => exact settles_nil
  | cons c rest ih =>
    have others := ih fun d member => each d (List.mem_cons_of_mem c member)
    rw [Write.stepsOf, List.map_append]
    by_cases own : c.runsFirst = first
    · rw [List.filter_cons_of_pos (by simpa using own), List.map_cons, if_pos own]
      exact settles_append (each c List.mem_cons_self) others
    · rw [List.filter_cons_of_neg (by simpa using own), if_neg own]
      exact others

theorem settles_link {owner : Nat} {t : Table} {e : Edge} {path : List String} {l : Link}
    (found : items[l.id]? = some (linkItem owner t e path l)) :
    Settles items [.enter l.id] [l.id] :=
  settles_enter found rfl (settles_emit l.id)

theorem settles_links {g : LinkGroup} {path : List String} {ls : List Link}
    (each : ∀ l ∈ ls, items[l.id]? = some (linkItem g.id g.table g.edge path l)) :
    Settles items (ls.map fun l => .enter l.id) (ls.map Link.id) := by
  induction ls with
  | nil => exact settles_nil
  | cons l rest ih =>
    exact settles_append (settles_link (each l List.mem_cons_self))
      (ih fun m member => each m (List.mem_cons_of_mem l member))

theorem steps_ids (above r : Rows) (children : List Write) :
    ((Write.rows r children).steps above).map Step.id =
      (Write.stepsOf true r children).map Step.id ++
        r.id :: (Write.stepsOf false r children).map Step.id := by
  rw [Write.steps, List.map_append, List.map_cons]
  rfl

/-- Once the loop enters a write, it puts down its steps in their order. -/
theorem laid_settles {parent : Option Nat} {w : Write} (laid : Laid items parent w)
    (above : Rows) : Settles items [.enter w.id] ((w.steps above).map Step.id) := by
  induction laid generalizing above with
  | @rows parent r children own below ih =>
    have marked : children? items (children.map Write.id) =
        some (children.map fun c => (c.id, c.runsFirst)) :=
      children?_map fun c member => laid_runsFirst (below c member)
    refine settles_enter own marked ?_
    have each (c : Write) (member : c ∈ children) := ih c member r
    have before := settles_stepsOf true r children each
    have after := settles_stepsOf false r children each
    rw [steps_ids]
    have split : visits r.id (children.map fun c => (c.id, c.runsFirst)) =
        ((children.filter fun c => c.runsFirst = true).map fun c => .enter c.id) ++
          ([.emit r.id] ++
            (children.filter fun c => c.runsFirst = false).map fun c => .enter c.id) := by
      simp [visits, List.filter_map, Function.comp_def]
    rw [Write.id, split]
    exact settles_append before (settles_append (settles_emit r.id) after)
  | @links parent g path payload own each =>
    have marked : children? items (g.links.map Link.id) =
        some (g.links.map fun l => (l.id, true)) :=
      children?_map fun l member => by rw [each l member]; rfl
    refine settles_enter own marked ?_
    have split : visits g.id (g.links.map fun l => (l.id, true)) =
        (g.links.map fun l => .enter l.id) ++ [.emit g.id] := by
      simp [visits, List.filter_map, Function.comp_def]
    have ids : (Write.steps above (.links g)).map Step.id = g.links.map Link.id ++ [g.id] := by
      rw [Write.steps, List.map_append, List.map_map]
      rfl
    rw [Write.id, split, ids]
    exact settles_append (settles_links each) (settles_emit g.id)

theorem tour_stops {chain : Chain} (laid : Laid items none chain.tree) :
    ∃ turns, (turn items)^[turns] (.running [.enter chain.root.id] []) =
      .stopped (chain.steps.map Step.id) := by
  obtain ⟨turns, settled⟩ := laid_settles laid chain.root [] []
  have ordered : (chain.tree.steps chain.root).map Step.id = chain.steps.map Step.id := by
    rw [Chain.tree, steps_ids, Chain.steps, List.map_append, List.map_cons]
    rfl
  rw [ordered, List.nil_append, List.append_nil] at settled
  refine ⟨turns + 1, ?_⟩
  rw [Function.iterate_succ_apply']
  exact congrArg (turn items) settled

end Laid

end Tour

theorem build_toured {s : Schema} {kind : RowKind} {t : Table} {value : Json} {chain : Chain}
    (built : build s kind t value = .ok chain) :
    ∃ items turns visits, (turn s)^[turns] (start kind t value) = .stopped (.ok items) ∧
      (Tour.turn items)^[visits] (.running [.enter 0] []) =
        .stopped (chain.steps.map Step.id) := by
  obtain ⟨turns, outcome, stopped, both⟩ := worklist_stops s kind t value
  rw [built] at both
  cases both with
  | @ok items _ stored =>
    obtain ⟨visits, toured⟩ := Tour.tour_stops stored.laid
    rw [(build_root built).1] at toured
    exact ⟨items, turns, visits, stopped, toured⟩

end Mutation

end Lateral
