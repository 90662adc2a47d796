import Lateral.Proofs.Nodes
import Mathlib.Data.List.Nodup

/-!
Requests whose selections form a forest. A selection names its parent and lists its children; here
both agree with one tree for each root, and every selection stands in one place of the trees.
-/

namespace Lateral

inductive Rose (α : Type) where
  | node (value : α) (below : List (Rose α))

namespace Rose

variable {α β : Type}

def value : Rose α → α
  | node a _ => a

@[elab_as_elim]
theorem induct {P : Rose α → Prop}
    (node : ∀ a below, (∀ t ∈ below, P t) → P (node a below)) (t : Rose α) : P t := by
  refine @Rose.rec α P (fun ts => ∀ t ∈ ts, P t) node ?_ ?_ t
  · intro t member
    cases member
  · intro first rest head tail t member
    rcases List.mem_cons.mp member with rfl | later
    · exact head
    · exact tail t later

mutual

def fold (f : α → List β → β) : Rose α → β
  | node a below => f a (foldEach f below)

def foldEach (f : α → List β → β) : List (Rose α) → List β
  | [] => []
  | t :: rest => fold f t :: foldEach f rest

end

theorem foldEach_eq (f : α → List β → β) (ts : List (Rose α)) :
    foldEach f ts = ts.map (fold f) := by
  induction ts with
  | nil => rfl
  | cons t rest ih => rw [foldEach, ih, List.map_cons]

theorem fold_node (f : α → List β → β) (a : α) (below : List (Rose α)) :
    fold f (node a below) = f a (below.map (fold f)) := by
  rw [fold, foldEach_eq]

def values : Rose α → List α := fold fun a inner => a :: inner.flatten

theorem values_node (a : α) (below : List (Rose α)) :
    (node a below).values = a :: below.flatMap values := fold_node ..

theorem value_mem_values (t : Rose α) : t.value ∈ t.values := by
  cases t with
  | node a below =>
    rw [values_node]
    exact List.mem_cons_self ..

theorem mem_values_of_below {a b : α} {below : List (Rose α)} {t : Rose α} (member : t ∈ below)
    (inside : b ∈ t.values) : b ∈ (node a below).values := by
  rw [values_node]
  exact List.mem_cons_of_mem _ (List.mem_flatMap.mpr ⟨t, member, inside⟩)

inductive Within : Rose α → Rose α → Prop where
  | self (t : Rose α) : Within t t
  | deeper {t c : Rose α} {a : α} {below : List (Rose α)} (member : c ∈ below)
      (inside : Within t c) : Within t (node a below)

end Rose

/-- The fields of the selections in a tree say what lies in what. The tree itself lies in the
selection given, or in none. -/
inductive Linked : Option Nat → Rose Selection → Prop where
  | node {above : Option Nat} {s : Selection} {below : List (Rose Selection)}
      (parent : s.parent = above) (children : s.children = below.map fun t => t.value.id)
      (inside : ∀ t ∈ below, Linked (some s.id) t) : Linked above (.node s below)

/-- The selections of a request form a forest, one tree for each root. -/
structure Request.IsForest (r : Request) (forest : List (Rose Selection)) : Prop where
  placed : r.Positioned
  nonempty : forest ≠ []
  rooted : r.roots = forest.map fun t => t.value.id
  linked : ∀ t ∈ forest, Linked none t
  whole : (forest.flatMap Rose.values).Perm r.selections

namespace Request

variable {r : Request} {forest : List (Rose Selection)}

theorem Positioned.selection (placed : r.Positioned) {s : Selection} (member : s ∈ r.selections) :
    r.selections[s.id]? = some s := by
  obtain ⟨i, found⟩ := List.mem_iff_getElem?.mp member
  have same : s.id = i := placed i s found
  rw [same]
  exact found

theorem Positioned.ids (placed : r.Positioned) :
    r.selections.map Selection.id = List.range r.selections.length := by
  refine List.ext_getElem? fun i => ?_
  rw [List.getElem?_map]
  cases found : r.selections[i]? with
  | none =>
    have outside : r.selections.length ≤ i := List.getElem?_eq_none_iff.mp found
    simp [outside]
  | some s =>
    have inside : i < r.selections.length := (List.getElem?_eq_some_iff.mp found).1
    simp [inside, placed i s found]

namespace IsForest

theorem selection (shape : r.IsForest forest) {t : Rose Selection} (root : t ∈ forest)
    {s : Selection} (member : s ∈ t.values) : r.selections[s.id]? = some s := by
  refine shape.placed.selection (shape.whole.subset ?_)
  exact List.mem_flatMap.mpr ⟨t, root, member⟩

theorem ids_nodup (shape : r.IsForest forest) :
    ((forest.flatMap Rose.values).map Selection.id).Nodup := by
  have same := shape.whole.map Selection.id
  rw [shape.placed.ids] at same
  exact same.nodup_iff.mpr List.nodup_range

theorem size_le (shape : r.IsForest forest) {t : Rose Selection} (root : t ∈ forest) :
    t.values.length ≤ r.selections.length := by
  rw [← shape.whole.length_eq]
  exact (List.sublist_flatten_of_mem (List.mem_map_of_mem root)).length_le

end IsForest

end Request

end Lateral
