import Lateral.Dict
import Lateral.Mutation.Write
import Lateral.Proofs.Outcome
import Mathlib.Data.List.Nodup
import Mathlib.Logic.Function.Iterate

/-!
The construction of a mutation as a loop over a worklist. Its items refer to each other by position;
the list grows while it is gone through, and the kinds of items are changed in place. Whatever the
data, the items form a tree in which every item stands after its parent, and the path of an item
leads through objects to the value that its fields were read from.
-/

namespace Lateral

namespace Json

/-- The value at the end of a path, each key of which is looked up in an object. -/
def at? : Json → List String → Option Json
  | v, [] => some v
  | v, key :: path => (v.field? key).bind fun inner => inner.at? path

inductive Distinct : Json → Prop where
  | null : Distinct .null
  | bool (b : Bool) : Distinct (.bool b)
  | int (n : Int) : Distinct (.int n)
  | float (x : Double) : Distinct (.float x)
  | str (s : String) : Distinct (.str s)
  | arr {items : List Json} (inside : ∀ item ∈ items, Distinct item) : Distinct (.arr items)
  | obj {fields : List (String × Json)} (once : (fields.map Prod.fst).Nodup)
      (inside : ∀ f ∈ fields, Distinct f.2) : Distinct (.obj fields)

inductive Reaches : Json → List String → Json → Prop where
  | here (v : Json) : Reaches v [] v
  | field {fields : List (String × Json)} {key : String} {inner v : Json} {path : List String}
      (held : (key, inner) ∈ fields) (on : Reaches inner path v) :
      Reaches (.obj fields) (key :: path) v

theorem Reaches.snoc {v inner : Json} {path : List String} {fields : List (String × Json)}
    {key : String} (leads : Reaches v path (.obj fields)) (held : (key, inner) ∈ fields) :
    Reaches v (path ++ [key]) inner := by
  generalize target : Json.obj fields = middle at leads
  induction leads with
  | here v =>
    subst target
    exact .field held (.here inner)
  | field first _ ih => exact .field first (ih target)

/-- Where no key is there twice, a path leads to the one value that it looks up. -/
theorem Reaches.at? {v w : Json} {path : List String} (leads : Reaches v path w)
    (distinct : v.Distinct) : v.at? path = some w := by
  induction leads with
  | here v => rfl
  | @field fields key inner w path held _ ih =>
    cases distinct with
    | obj once inside =>
      have found : fields.lookup key = some inner := by
        refine Dict.lookup_of_unique held fun other also => ?_
        exact congrArg Prod.snd (List.inj_on_of_nodup_map once also held rfl)
      rw [Json.at?, field?, found, Option.bind_some]
      exact ih (inside _ held)

end Json

/-- The fields come from the value that a path leads to, which is the one it looks up where no key
is there twice. -/
def Payload.FoundAt (value : Json) (path : List String) (p : Payload) : Prop :=
  ∃ v, value.Reaches path v ∧ (value.Distinct → value.at? path = some v) ∧ Payload.ofJson v = .ok p

namespace Mutation
open Outcome

inductive ItemKind where
  | rows (kind : RowKind)
  | link (kind : LinkKind)
  | union
  deriving DecidableEq

def ItemKind.isLink : ItemKind → Bool
  | .link _ => true
  | _ => false

def ItemKind.below : ItemKind → RowKind
  | .rows kind => childKind kind
  | _ => .insert

structure Item where
  id : Nat
  kind : ItemKind
  table : Table
  /-- The keys that lead from the root of the data to that of this item. -/
  path : List String
  payload : Payload
  parent : Option Nat
  edge : Option Edge
  children : List Nat := []
  filter : Option Filter := none

namespace Item

def nested (i : Item) : List (String × Json) :=
  i.payload.fields.filter fun f => f.2.isNested && (i.table.column? f.1).isNone

def Addressed (value : Json) (i : Item) : Prop := i.payload.FoundAt value i.path

def adopt (child : Nat) (i : Item) : Item := { i with children := i.children ++ [child] }

def ofLink (i : Item) (position : Nat) (kind : LinkKind) (filter : Filter) : Item where
  id := 0
  kind := .link kind
  table := i.table
  path := i.path
  payload := ⟨[], false⟩
  parent := some position
  edge := i.edge
  filter := some filter

def ofRows (i : Item) (position : Nat) (key : String) (t : Table) (e : Edge) (payload : Payload) :
    Item where
  id := 0
  kind := .rows i.kind.below
  table := t
  path := i.path ++ [key]
  payload := payload
  parent := some position
  edge := some e

end Item

structure Worklist where
  items : List Item
  /-- The positions of items that are yet to be looked into, the next one first. -/
  pending : List Nat
  written : List String

namespace Worklist

def push (w : Worklist) (parent : Nat) (i : Item) : Worklist :=
  { w with
    items := w.items.modify parent (.adopt w.items.length) ++ [{ i with id := w.items.length }] }

def amend (w : Worklist) (position : Nat) (change : Item → Item) : Worklist :=
  { w with items := w.items.modify position change }

variable (s : Schema) (position : Nat) (i : Item)

def visitLink (w : Worklist) (f : String × Json) : Except Error Worklist := do
  let kind := if disconnectKeys.contains f.1 then LinkKind.disconnect else .connect
  if kind = .disconnect ∧ (i.kind = .rows .insert ∨ i.kind = .rows .upsert) then
    throw (.invalidPayload (.disconnectOnInsert i.table.name))
  let filter ← linkFilter s i.table f.2
  if i.edge.any Edge.isOneToMany then i.table.requireWritable
  return w.push position (i.ofLink position kind filter)

def visitChild (w : Worklist) (f : String × Json) : Except Error Worklist := do
  if i.payload.array then throw .nestedBulkWrite
  let t ← s.table f.1
  let e ← s.edge f.1 i.table.name
  t.requireWritable
  if e.isRemote then throw (.unusableEdge f.1 i.table.name .remoteWrite)
  if w.written.contains t.key then throw (.duplicateWrite t.name)
  let payload ← Payload.ofJson f.2
  if payload.array ∧ i.kind.below = .update then throw (.invalidPayload (.bulkUpdate f.1))
  return { w.push position (i.ofRows position f.1 t e payload) with
    pending := w.items.length :: w.pending
    written := t.key :: w.written }

def visit (w : Worklist) (f : String × Json) : Except Error Worklist :=
  if f.1 = whereKey ∧ i.kind = .rows .update then
    if i.path.isEmpty then .ok w
    else do
      let filter ← Filter.ofPayload s i.table f.2
      return w.amend position fun i => { i with filter := some filter }
  else if isLinkKey f.1 then w.visitLink s position i f
  else w.visitChild s position i f

/-- Looks into the data of an item as it was when its turn came. -/
def look (w : Worklist) : Except Error Worklist := do
  let links := i.nested.countP fun f => isLinkKey f.1
  if 0 < links then
    if i.parent.isNone then throw (.invalidPayload .rootLink)
    if links ≠ i.payload.fields.length then
      throw (.invalidPayload (.mixedLinks (String.intercalate "." i.path)))
    i.nested.foldlM (visit s position i) (w.amend position fun i => { i with kind := .union })
  else i.nested.foldlM (visit s position i) w

end Worklist

structure Arena (value : Json) (items : List Item) : Prop where
  ids : ∀ (n : Nat) (i : Item), items[n]? = some i → i.id = n
  root : ∃ i, items[0]? = some i ∧ i.parent = none
  /-- Every other item comes after its parent, which lists it. -/
  below : ∀ (n : Nat) (i : Item), items[n]? = some i → n ≠ 0 →
    ∃ p parent, i.parent = some p ∧ p < n ∧ items[p]? = some parent ∧ n ∈ parent.children
  /-- All lists of children together hold each position but that of the root, and hold it once. -/
  once : (items.flatMap Item.children).Perm (List.range' 1 (items.length - 1))
  addressed : ∀ (n : Nat) (i : Item), items[n]? = some i → i.kind.isLink = false → i.Addressed value

structure Worklist.Sound (value : Json) (w : Worklist) : Prop where
  arena : Arena value w.items
  pending : ∀ n ∈ w.pending, ∃ i, w.items[n]? = some i ∧ i.kind.isLink = false

structure Item.Keeps (i j : Item) : Prop where
  id : j.id = i.id
  path : j.path = i.path
  payload : j.payload = i.payload
  parent : j.parent = i.parent
  isLink : j.kind.isLink = i.kind.isLink
  children : i.children ⊆ j.children

theorem Item.Keeps.refl (i : Item) : i.Keeps i := ⟨rfl, rfl, rfl, rfl, rfl, List.Subset.refl _⟩

section Modify

variable {items : List Item} {position : Nat} {change : Item → Item}
  (keeps : ∀ i, items[position]? = some i → i.Keeps (change i))
include keeps

theorem modify_keeps {n : Nat} {i : Item} (found : items[n]? = some i) :
    ∃ j, (items.modify position change)[n]? = some j ∧ i.Keeps j := by
  rw [List.getElem?_modify]
  by_cases same : position = n
  · subst same
    exact ⟨change i, by simp [found], keeps i found⟩
  · exact ⟨i, by simp [found, same], .refl i⟩

theorem kept_of_modify {n : Nat} {j : Item} (found : (items.modify position change)[n]? = some j) :
    ∃ i, items[n]? = some i ∧ i.Keeps j := by
  have inside : n < items.length := by
    rw [← List.length_modify change items position]
    exact (List.getElem?_eq_some_iff.mp found).1
  obtain ⟨k, also, kept⟩ := modify_keeps keeps (List.getElem?_eq_getElem inside)
  rw [found] at also
  cases also
  exact ⟨_, List.getElem?_eq_getElem inside, kept⟩

end Modify

theorem Item.adopt_keeps (child : Nat) (i : Item) : i.Keeps (i.adopt child) :=
  ⟨rfl, rfl, rfl, rfl, rfl, List.subset_append_left ..⟩

section Push

variable {items : List Item} {position child n : Nat} {i j : Item}

theorem push_keeps (found : items[n]? = some j) :
    ∃ k, (items.modify position (.adopt child) ++ [i])[n]? = some k ∧ j.Keeps k := by
  obtain ⟨k, found', kept⟩ := modify_keeps (fun j _ => j.adopt_keeps child) found
  refine ⟨k, ?_, kept⟩
  rw [List.getElem?_append_left (List.getElem?_eq_some_iff.mp found').1]
  exact found'

theorem kept_of_push (found : (items.modify position (.adopt child) ++ [i])[n]? = some j) :
    (∃ k, items[n]? = some k ∧ k.Keeps j) ∨ (n = items.length ∧ j = i) := by
  rw [List.getElem?_append] at found
  split at found
  · exact Or.inl (kept_of_modify (fun j _ => j.adopt_keeps child) found)
  · rename_i beyond
    rw [List.getElem?_singleton] at found
    rw [List.length_modify] at beyond found
    split at found
    · cases found
      exact Or.inr ⟨by omega, rfl⟩
    · cases found

end Push

theorem Item.Addressed.kept {value : Json} {i j : Item} (addressed : i.Addressed value)
    (kept : i.Keeps j) : j.Addressed value := by
  unfold Item.Addressed
  rw [kept.path, kept.payload]
  exact addressed

theorem children_modify_same {items : List Item} {position : Nat} {change : Item → Item}
    (same : ∀ i, (change i).children = i.children) :
    (items.modify position change).flatMap Item.children = items.flatMap Item.children := by
  induction items generalizing position with
  | nil => simp
  | cons i rest ih =>
    cases position with
    | zero => simp [same]
    | succ position => simp [ih]

theorem children_adopt {items : List Item} {position : Nat} (inside : position < items.length)
    (child : Nat) : ((items.modify position (.adopt child)).flatMap Item.children).Perm
      (child :: items.flatMap Item.children) := by
  induction items generalizing position with
  | nil => cases inside
  | cons i rest ih =>
    cases position with
    | zero =>
      simp only [List.modify_zero_cons, List.flatMap_cons, Item.adopt, List.append_assoc,
        List.singleton_append]
      exact List.perm_middle
    | succ position =>
      simp only [List.modify_succ_cons, List.flatMap_cons]
      have later := ih (Nat.lt_of_succ_lt_succ inside)
      exact (later.append_left i.children).trans List.perm_middle

namespace Arena

variable {value : Json} {items : List Item} (arena : Arena value items)
include arena

theorem nonempty : 0 < items.length := by
  obtain ⟨i, found, -⟩ := arena.root
  exact (List.getElem?_eq_some_iff.mp found).1

theorem amend {position : Nat} {change : Item → Item}
    (keeps : ∀ i, items[position]? = some i → i.Keeps (change i))
    (same : ∀ i, (change i).children = i.children) :
    Arena value (items.modify position change) where
  ids := by
    intro n j found
    obtain ⟨i, before, kept⟩ := kept_of_modify keeps found
    rw [kept.id, arena.ids n i before]
  root := by
    obtain ⟨i, before, first⟩ := arena.root
    obtain ⟨j, found, kept⟩ := modify_keeps keeps before
    exact ⟨j, found, kept.parent.trans first⟩
  below := by
    intro n j found other
    obtain ⟨i, before, kept⟩ := kept_of_modify keeps found
    obtain ⟨p, parent, above, less, listed, member⟩ := arena.below n i before other
    obtain ⟨parent', found', kept'⟩ := modify_keeps keeps listed
    exact ⟨p, parent', kept.parent.trans above, less, found', kept'.children member⟩
  once := by
    rw [children_modify_same same, List.length_modify]
    exact arena.once
  addressed := by
    intro n j found unlinked
    obtain ⟨i, before, kept⟩ := kept_of_modify keeps found
    rw [kept.isLink] at unlinked
    exact (arena.addressed n i before unlinked).kept kept

theorem push {position : Nat} (inside : position < items.length) {i : Item}
    (placed : i.id = items.length) (above : i.parent = some position) (childless : i.children = [])
    (addressed : i.kind.isLink = false → i.Addressed value) :
    Arena value (items.modify position (.adopt items.length) ++ [i]) where
  ids := by
    intro n j found
    rcases kept_of_push found with ⟨k, before, kept⟩ | ⟨rfl, rfl⟩
    · rw [kept.id, arena.ids n k before]
    · exact placed
  root := by
    obtain ⟨j, before, first⟩ := arena.root
    obtain ⟨k, found, kept⟩ := push_keeps before
    exact ⟨k, found, kept.parent.trans first⟩
  below := by
    intro n j found other
    rcases kept_of_push found with ⟨k, before, kept⟩ | ⟨rfl, rfl⟩
    · obtain ⟨p, parent, upper, less, listed, member⟩ := arena.below n k before other
      obtain ⟨parent', found', kept'⟩ := push_keeps listed
      exact ⟨p, parent', kept.parent.trans upper, less, found', kept'.children member⟩
    · refine ⟨position, (items.get ⟨position, inside⟩).adopt items.length, above, inside, ?_, ?_⟩
      · rw [List.getElem?_append_left (by simpa using inside), List.getElem?_modify_eq,
          List.getElem?_eq_getElem inside]
        rfl
      · simp [Item.adopt]
  once := by
    obtain ⟨m, size⟩ := Nat.exists_eq_add_one_of_ne_zero (Nat.ne_of_gt arena.nonempty)
    have before := arena.once
    have adopted := children_adopt inside items.length
    rw [List.flatMap_append, List.flatMap_singleton, childless, List.append_nil, List.length_append,
      List.length_modify, size]
    rw [size] at before adopted
    refine adopted.trans ((before.cons _).trans ?_)
    have last : List.range' 1 (m + 1) = List.range' 1 m ++ [m + 1] := by
      rw [List.range'_concat, Nat.one_mul, Nat.add_comm]
    simp only [Nat.add_sub_cancel, List.length_singleton]
    rw [last]
    exact (List.perm_append_singleton _ _).symm
  addressed := by
    intro n j found unlinked
    rcases kept_of_push found with ⟨k, before, kept⟩ | ⟨rfl, rfl⟩
    · rw [kept.isLink] at unlinked
      exact (arena.addressed n k before unlinked).kept kept
    · exact addressed unlinked

end Arena

theorem ofJson_single {v : Json} {p : Payload} (read : Payload.ofJson v = .ok p)
    (single : p.array = false) : v = .obj p.fields := by
  cases v with
  | obj fields =>
    cases read
    rfl
  | arr items =>
    simp only [Payload.ofJson, bind_eq_ok, pure_eq_ok] at read
    obtain ⟨united, -, rfl⟩ := read
    cases single
  | _ => cases read

/-- No array lies on the way to the data of a child. -/
theorem Item.Addressed.child {value : Json} {i : Item} (addressed : i.Addressed value)
    (single : i.payload.array = false) {f : String × Json} (member : f ∈ i.payload.fields) :
    value.Reaches (i.path ++ [f.1]) f.2 := by
  obtain ⟨v, leads, -, read⟩ := addressed
  rw [ofJson_single read single] at leads
  exact leads.snoc member

namespace Worklist

variable {s : Schema} {value : Json} {w w' : Worklist} {n : Nat} {i : Item}

theorem Sound.amend (sound : w.Sound value) {change : Item → Item}
    (keeps : ∀ i, w.items[n]? = some i → i.Keeps (change i))
    (same : ∀ i, (change i).children = i.children) : (w.amend n change).Sound value where
  arena := sound.arena.amend keeps same
  pending := by
    intro m waits
    obtain ⟨i, found, unlinked⟩ := sound.pending m waits
    obtain ⟨j, found', kept⟩ := modify_keeps keeps found
    exact ⟨j, found', kept.isLink.trans unlinked⟩

theorem Sound.push (sound : w.Sound value) (inside : n < w.items.length)
    (above : i.parent = some n) (childless : i.children = [])
    (addressed : i.kind.isLink = false → i.Addressed value) : (w.push n i).Sound value where
  arena := sound.arena.push inside rfl above childless addressed
  pending := by
    intro m waits
    obtain ⟨j, found, unlinked⟩ := sound.pending m waits
    obtain ⟨k, found', kept⟩ := push_keeps found
    exact ⟨k, found', kept.isLink.trans unlinked⟩

theorem push_last (i : Item) :
    (w.push n i).items[w.items.length]? = some { i with id := w.items.length } := by
  rw [push, List.getElem?_append_right (by simp)]
  simp

theorem push_length (i : Item) : (w.push n i).items.length = w.items.length + 1 := by
  simp [push]

theorem amend_length (change : Item → Item) :
    (w.amend n change).items.length = w.items.length := by
  simp [amend]

theorem Sound.visitLink (sound : w.Sound value) (inside : n < w.items.length) {f : String × Json}
    (run : w.visitLink s n i f = .ok w') : w'.Sound value ∧ n < w'.items.length := by
  simp only [Worklist.visitLink, check_when_eq_ok, bind_eq_ok, pure_eq_ok] at run
  obtain ⟨-, filter, -, -, rfl⟩ := run
  refine ⟨sound.push inside rfl rfl ?_, ?_⟩
  · intro unlinked
    cases unlinked
  · rw [push_length]
    omega

theorem Sound.visitChild (sound : w.Sound value) (inside : n < w.items.length)
    (addressed : i.Addressed value) {f : String × Json} (member : f ∈ i.payload.fields)
    (run : w.visitChild s n i f = .ok w') : w'.Sound value ∧ n < w'.items.length := by
  simp only [Worklist.visitChild, check_eq_ok, bind_eq_ok, pure_eq_ok] at run
  obtain ⟨single, t, -, e, -, -, -, -, -, payload, read, -, rfl⟩ := run
  have leads := addressed.child (by simpa using single) member
  have pushed : (w.push n (i.ofRows n f.1 t e payload)).Sound value :=
    sound.push inside rfl rfl fun _ => ⟨f.2, leads, leads.at?, read⟩
  refine ⟨⟨pushed.arena, ?_⟩, ?_⟩
  · intro m waits
    rcases List.mem_cons.mp waits with rfl | earlier
    · exact ⟨_, push_last _, rfl⟩
    · exact pushed.pending m earlier
  · change n < (w.push n _).items.length
    rw [push_length]
    omega

theorem Sound.visit (sound : w.Sound value) (inside : n < w.items.length)
    (addressed : i.Addressed value) {f : String × Json} (member : f ∈ i.payload.fields)
    (run : w.visit s n i f = .ok w') : w'.Sound value ∧ n < w'.items.length := by
  unfold Worklist.visit at run
  split at run
  · split at run
    · cases run
      exact ⟨sound, inside⟩
    · simp only [bind_eq_ok, pure_eq_ok] at run
      obtain ⟨filter, -, rfl⟩ := run
      refine ⟨sound.amend ?_ fun _ => rfl, ?_⟩
      · exact fun i _ => ⟨rfl, rfl, rfl, rfl, rfl, List.Subset.refl _⟩
      · rwa [amend_length]
  · split at run
    · exact sound.visitLink inside run
    · exact sound.visitChild inside addressed member run

theorem Sound.visits (sound : w.Sound value) {fields : List (String × Json)}
    (inside : n < w.items.length) (addressed : i.Addressed value)
    (members : ∀ f ∈ fields, f ∈ i.payload.fields)
    (run : fields.foldlM (Worklist.visit s n i) w = .ok w') : w'.Sound value := by
  induction fields generalizing w with
  | nil =>
    cases run
    exact sound
  | cons f rest ih =>
    rw [List.foldlM_cons] at run
    obtain ⟨next, first, others⟩ := bind_eq_ok.mp run
    obtain ⟨sound, inside⟩ := sound.visit inside addressed (members f (List.mem_cons_self ..)) first
    exact ih sound inside (fun g later => members g (List.mem_cons_of_mem _ later)) others

theorem Sound.look (sound : w.Sound value) (found : w.items[n]? = some i)
    (unlinked : i.kind.isLink = false) (run : w.look s n i = .ok w') : w'.Sound value := by
  have inside := (List.getElem?_eq_some_iff.mp found).1
  have addressed := sound.arena.addressed n i found unlinked
  have members : ∀ f ∈ i.nested, f ∈ i.payload.fields := fun f among => (List.mem_filter.mp among).1
  unfold Worklist.look at run
  dsimp only at run
  split at run
  · obtain ⟨-, run⟩ := check_eq_ok.mp run
    obtain ⟨-, run⟩ := check_eq_ok.mp run
    have amended : (w.amend n fun i => { i with kind := .union }).Sound value := by
      refine sound.amend (fun j found' => ?_) fun _ => rfl
      rw [found] at found'
      cases found'
      exact ⟨rfl, rfl, rfl, rfl, unlinked.symm, List.Subset.refl _⟩
    refine amended.visits ?_ addressed members run
    rwa [amend_length]
  · exact sound.visits inside addressed members run

end Worklist

/-- The loop as it goes on. It has no bound of its own. -/
inductive Loop where
  | running (w : Worklist)
  | stopped (outcome : Except Error (List Item))
  /-- A position was pending that is not there. -/
  | broken

def Loop.of : Except Error Worklist → Loop
  | .ok w => .running w
  | .error e => .stopped (.error e)

def turn (s : Schema) : Loop → Loop
  | .running w =>
    match w.pending with
    | [] => .stopped (.ok w.items)
    | n :: rest =>
      match w.items[n]? with
      | some i => .of (Worklist.look s n i { w with pending := rest })
      | none => .broken
  | l => l

def Item.root (kind : RowKind) (t : Table) (payload : Payload) : Item where
  id := 0
  kind := .rows kind
  table := t
  path := []
  payload := payload
  parent := none
  edge := none

def start (kind : RowKind) (t : Table) (value : Json) : Loop :=
  match Payload.ofJson value with
  | .ok payload => .running ⟨[.root kind t payload], [0], [t.key]⟩
  | .error e => .stopped (.error e)

def Loop.Sound (value : Json) : Loop → Prop
  | .running w => w.Sound value
  | .stopped (.ok items) => Arena value items
  | .stopped (.error _) => True
  | .broken => False

theorem start_sound (kind : RowKind) (t : Table) (value : Json) :
    (start kind t value).Sound value := by
  unfold start
  cases read : Payload.ofJson value with
  | error e => trivial
  | ok payload =>
    have only {n : Nat} {i : Item} (found : [Item.root kind t payload][n]? = some i) :
        n = 0 ∧ i = .root kind t payload := by
      rw [List.getElem?_singleton] at found
      split at found
      · cases found
        exact ⟨by assumption, rfl⟩
      · cases found
    refine ⟨⟨?_, ⟨_, rfl, rfl⟩, ?_, List.Perm.refl _, ?_⟩, ?_⟩
    · intro n i found
      obtain ⟨rfl, rfl⟩ := only found
      rfl
    · intro n i found other
      exact absurd (only found).1 other
    · intro n i found _
      obtain ⟨rfl, rfl⟩ := only found
      exact ⟨value, .here value, fun _ => rfl, read⟩
    · intro n waits
      cases List.mem_singleton.mp waits
      exact ⟨_, rfl, rfl⟩

theorem turn_sound {s : Schema} {value : Json} {l : Loop} (sound : l.Sound value) :
    (turn s l).Sound value := by
  cases l with
  | stopped outcome => exact sound
  | broken => exact sound
  | running w =>
    obtain ⟨items, pending, written⟩ := w
    cases pending with
    | nil => exact sound.arena
    | cons n rest =>
      obtain ⟨i, found, unlinked⟩ := sound.pending n (List.mem_cons_self ..)
      have popped : Worklist.Sound value ⟨items, rest, written⟩ :=
        ⟨sound.arena, fun m waits => sound.pending m (List.mem_cons_of_mem _ waits)⟩
      simp only [turn, found]
      cases run : Worklist.look s n i ⟨items, rest, written⟩ with
      | error e => trivial
      | ok w => exact popped.look found unlinked run

/-- Whatever the number of turns, the loop has not gone wrong. -/
theorem turns_sound (s : Schema) (kind : RowKind) (t : Table) (value : Json) (k : Nat) :
    ((turn s)^[k] (start kind t value)).Sound value := by
  induction k with
  | zero => exact start_sound kind t value
  | succ k ih =>
    rw [Function.iterate_succ_apply']
    exact turn_sound ih

end Mutation

end Lateral
