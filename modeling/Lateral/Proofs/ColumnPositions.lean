import Lateral.Schema.Table
import Mathlib.Data.List.Induction

/-!
The positions that a table holds of its columns. They lie within the columns, and the column at such
a position is the one that going through the columns would find: the last one with a name or an id,
the first one for a use.
-/

namespace Lateral

section Positions

variable {α κ : Type} [DecidableEq κ] {items : List α} {d : Dict κ Nat} {found : Option Nat}

theorem insert_position_lt {n : Nat} (below : ∀ k i, d.get? k = some i → i < n) (key : κ) :
    ∀ k i, (d.insert key n).get? k = some i → i < n + 1 := by
  intro k i held
  rw [Dict.get?_insert] at held
  split at held
  · cases held
    omega
  · have := below k i held
    omega

theorem or_position_lt {n : Nat} (below : ∀ i, found = some i → i < n) (wanted : Bool) :
    ∀ i, found.or (if wanted then some n else none) = some i → i < n + 1 := by
  intro i held
  rcases Option.or_eq_some_iff.mp held with before | ⟨-, here⟩
  · have := below i before
    omega
  · split at here
    · cases here
      omega
    · cases here

theorem bind_getElem?_snoc (a : α) (below : ∀ i, found = some i → i < items.length) :
    (found.bind fun i => (items ++ [a])[i]?) = found.bind fun i => items[i]? := by
  cases found with
  | none => rfl
  | some i => exact List.getElem?_append_left (below i rfl)

theorem find?_insert_position {key : α → κ} (below : ∀ k i, d.get? k = some i → i < items.length)
    (finds : ∀ k, ((d.get? k).bind fun i => items[i]?) = items.reverse.find? (key · == k))
    (a : α) (k : κ) :
    (((d.insert (key a) items.length).get? k).bind fun i => (items ++ [a])[i]?) =
      (items ++ [a]).reverse.find? (key · == k) := by
  rw [Dict.get?_insert, List.reverse_append, List.reverse_singleton, List.singleton_append,
    List.find?_cons]
  by_cases same : key a = k
  · simp [same]
  · have apart : k ≠ key a := fun h => same h.symm
    rw [if_neg apart, bind_getElem?_snoc a (below k), finds, beq_false_of_ne same]

theorem find?_or_position {wanted : α → Bool} (below : ∀ i, found = some i → i < items.length)
    (finds : (found.bind fun i => items[i]?) = items.find? wanted) (a : α) :
    ((found.or (if wanted a then some items.length else none)).bind
      fun i => (items ++ [a])[i]?) = (items ++ [a]).find? wanted := by
  rw [List.find?_append, ← finds]
  cases found with
  | some i =>
    have bound := below i rfl
    simp [List.getElem?_append_left bound, List.getElem?_eq_getElem bound]
  | none => by_cases here : wanted a <;> simp [here]

end Positions

namespace ColumnIndex

structure InRange (ix : ColumnIndex) (columns : List Column) : Prop where
  byName : ∀ name i, ix.byName.get? name = some i → i < columns.length
  byId : ∀ id i, ix.byId.get? id = some i → i < columns.length
  primary : ∀ i, ix.primary = some i → i < columns.length
  search : ∀ i, ix.search = some i → i < columns.length

/-- The positions lead to what going through the columns finds. -/
structure Finds (ix : ColumnIndex) (columns : List Column) : Prop where
  byName : ∀ name, ((ix.byName.get? name).bind fun i => columns[i]?) =
    columns.reverse.find? fun c => Text.lower c.name == name
  byId : ∀ id, ((ix.byId.get? id).bind fun i => columns[i]?) =
    columns.reverse.find? fun c => c.id == id
  primary : (ix.primary.bind fun i => columns[i]?) = columns.find? Column.primaryKey
  search : (ix.search.bind fun i => columns[i]?) = columns.find? Column.isSearchable

variable {ix : ColumnIndex} {columns : List Column}

theorem InRange.add (inRange : ix.InRange columns) (c : Column) :
    (ix.add c columns.length).InRange (columns ++ [c]) := by
  have length : (columns ++ [c]).length = columns.length + 1 := List.length_append
  constructor <;> rw [length]
  · exact insert_position_lt inRange.byName _
  · exact insert_position_lt inRange.byId _
  · exact or_position_lt inRange.primary _
  · exact or_position_lt inRange.search _

theorem Finds.add (finds : ix.Finds columns) (inRange : ix.InRange columns) (c : Column) :
    (ix.add c columns.length).Finds (columns ++ [c]) where
  byName := find?_insert_position inRange.byName finds.byName c
  byId := find?_insert_position inRange.byId finds.byId c
  primary := find?_or_position inRange.primary finds.primary c
  search := find?_or_position inRange.search finds.search c

theorem ofColumns_snoc (columns : List Column) (c : Column) :
    ofColumns (columns ++ [c]) = (ofColumns columns).add c columns.length := by
  unfold ofColumns
  rw [List.zipIdx_append, List.foldl_append, Nat.zero_add]
  rfl

theorem ofColumns_inRange (columns : List Column) : (ofColumns columns).InRange columns := by
  induction columns using List.reverseRecOn with
  | nil => constructor <;> simp [ofColumns]
  | append_singleton columns c ih =>
    rw [ofColumns_snoc]
    exact ih.add c

theorem ofColumns_finds (columns : List Column) : (ofColumns columns).Finds columns := by
  induction columns using List.reverseRecOn with
  | nil => constructor <;> simp [ofColumns]
  | append_singleton columns c ih =>
    rw [ofColumns_snoc]
    exact ih.add (ofColumns_inRange columns) c

end ColumnIndex

namespace Table

variable {t : Table}

theorem index_inRange (t : Table) : t.index.InRange t.columns := by
  rw [t.indexed]
  exact ColumnIndex.ofColumns_inRange t.columns

theorem index_finds (t : Table) : t.index.Finds t.columns := by
  rw [t.indexed]
  exact ColumnIndex.ofColumns_finds t.columns

theorem at?_mem {position : Option Nat} {c : Column} (found : t.at? position = some c) :
    c ∈ t.columns := by
  obtain ⟨i, -, at_i⟩ := Option.bind_eq_some_iff.mp found
  exact List.mem_of_getElem? at_i

theorem column?_mem {name : String} {c : Column} (found : t.column? name = some c) :
    c ∈ t.columns := at?_mem found

theorem primary?_isKey {c : Column} (found : t.primary? = some c) : c.primaryKey = true := by
  unfold primary? at? at found
  rw [t.index_finds.primary] at found
  exact List.find?_some found

theorem column?_own {c : Column} (member : c ∈ t.columns) : (t.column? c.name).isSome = true := by
  have finds := t.index_finds.byName (Text.lower c.name)
  unfold column? at?
  rw [finds, List.find?_isSome]
  exact ⟨c, List.mem_reverse.mpr member, by simp⟩

end Table

end Lateral
