import Lateral.Catalog
import Lateral.Sorted
import Mathlib.Data.List.Nodup

/-!
The rows of a catalog, merged. A row is added to the description of its column, wherever that stands
by then; in the end the descriptions are those that the rows of each column give together, as if the
rows had been grouped by column first. So merging again changes nothing, and rows may be merged in
parts.
-/

namespace Lateral

theorem distinct_concat {α : Type} [DecidableEq α] (xs : List α) (a : α) :
    distinct (xs ++ [a]) = if a ∈ xs then distinct xs else distinct xs ++ [a] := by
  induction xs with
  | nil => rfl
  | cons x rest ih =>
    rw [List.cons_append, distinct, distinct, ih]
    by_cases same : a = x
    · subst same
      split <;> simp
    · by_cases later : a ∈ rest <;> simp [same, later]

namespace Column

/-- What the rows of one column say of it: a name and a type in the first row, flags in any, and a
foreign key in the first row that has one, or else what the first row has in its place. -/
def together (first : Column) (more : List Column) : Column :=
  let rows := first :: more
  let keyed := (rows.find? fun c => c.target.isSome).getD first
  { first with
    array := rows.any Column.array
    notNull := rows.any Column.notNull
    primaryKey := rows.any Column.primaryKey
    uniqueKey := rows.any Column.uniqueKey
    target := keyed.target
    targetIds := keyed.targetIds }

def ofRows? (rows : List Column) (id : Int16) : Option Column :=
  match rows.filter fun c => c.id = id with
  | [] => none
  | first :: more => some (together first more)

def grouped (rows : List Column) : List Column :=
  (distinct (rows.map Column.id)).filterMap (ofRows? rows)

section Together

theorem together_alone (row : Column) : together row [] = row := by
  obtain ⟨id, name, sqlType, array, notNull, primaryKey, uniqueKey, target, targetIds⟩ := row
  cases target <;> simp [together]

theorem together_concat (first : Column) (more : List Column) (row : Column) :
    together first (more ++ [row]) = (together first more).absorb row := by
  have flags (flag : Column → Bool) : (first :: (more ++ [row])).any flag =
      ((first :: more).any flag || flag row) := by
    simp [Bool.or_assoc]
  have searched : (first :: (more ++ [row])).find? (fun c => c.target.isSome) =
      ((first :: more).find? fun c => c.target.isSome).or
        ([row].find? fun c => c.target.isSome) := by
    rw [← List.cons_append, List.find?_append]
  cases found : (first :: more).find? fun c => c.target.isSome with
  | some keyed =>
    have keeps := List.find?_some found
    have kept : keyed.target.isNone = false := by simpa using keeps
    simp only [together, flags, searched, found, absorb, Option.some_or, Option.getD_some, kept,
      Bool.false_eq_true, ↓reduceIte, Bool.false_and]
  | none =>
    have unkeyed : first.target = none := by
      simpa using List.find?_eq_none.mp found first List.mem_cons_self
    cases target : row.target <;>
      simp [together, flags, searched, found, absorb, unkeyed, target]

end Together

section Rows

variable {rows : List Column} {row c : Column} {id : Int16}

theorem ofRows?_other (other : row.id ≠ id) : ofRows? (rows ++ [row]) id = ofRows? rows id := by
  rw [ofRows?, List.filter_append, List.filter_cons_of_neg (by simpa using other),
    List.filter_nil, List.append_nil, ofRows?]

theorem ofRows?_absorb (found : ofRows? rows row.id = some c) :
    ofRows? (rows ++ [row]) row.id = some (c.absorb row) := by
  unfold ofRows? at found ⊢
  rw [List.filter_append, List.filter_cons_of_pos (by simp), List.filter_nil]
  split at found
  · cases found
  · rename_i first more own
    cases found
    rw [own, List.cons_append]
    exact congrArg some (together_concat first more row)

theorem ofRows?_new (fresh : row.id ∉ rows.map Column.id) :
    ofRows? (rows ++ [row]) row.id = some row := by
  have none : rows.filter (fun c => c.id = row.id) = [] := by
    simpa [List.filter_eq_nil_iff] using fresh
  unfold ofRows?
  rw [List.filter_append, none, List.filter_cons_of_pos (by simp), List.filter_nil, List.nil_append]
  exact congrArg some (together_alone row)

end Rows

section Step

variable {descriptions : List Column} {row c : Column}

theorem mergeRow_new (fresh : row.id ∉ descriptions.map Column.id) :
    mergeRow descriptions row = descriptions ++ [row] := by
  induction descriptions with
  | nil => rfl
  | cons first rest ih =>
    obtain ⟨other, fresh⟩ := not_or.mp (mt List.mem_cons.mpr fresh)
    rw [mergeRow, if_neg (Ne.symm other), ih fresh, List.cons_append]

theorem mergeRow_known (known : row.id ∈ descriptions.map Column.id) :
    (mergeRow descriptions row).map Column.id = descriptions.map Column.id := by
  induction descriptions with
  | nil => cases known
  | cons first rest ih =>
    rw [mergeRow]
    split
    · rfl
    · rename_i other
      rw [List.map_cons, ih, List.map_cons]
      exact (List.mem_cons.mp known).resolve_left (Ne.symm other)

/-- Where no id stands twice, a row changes the description of its column alone. -/
theorem mem_mergeRow (once : (descriptions.map Column.id).Nodup)
    (known : row.id ∈ descriptions.map Column.id) (member : c ∈ mergeRow descriptions row) :
    (c ∈ descriptions ∧ row.id ≠ c.id) ∨
      ∃ old ∈ descriptions, old.id = row.id ∧ c = old.absorb row := by
  induction descriptions with
  | nil => cases known
  | cons first rest ih =>
    obtain ⟨alone, once⟩ := List.nodup_cons.mp once
    rw [mergeRow] at member
    split at member
    · rename_i same
      rcases List.mem_cons.mp member with rfl | later
      · exact .inr ⟨first, List.mem_cons_self, same, rfl⟩
      · refine .inl ⟨List.mem_cons_of_mem _ later, ?_⟩
        intro again
        rw [same, again] at alone
        exact alone (List.mem_map_of_mem later)
    · rename_i other
      rcases List.mem_cons.mp member with rfl | later
      · exact .inl ⟨List.mem_cons_self, Ne.symm other⟩
      · have known := (List.mem_cons.mp known).resolve_left (Ne.symm other)
        rcases ih once known later with ⟨kept, apart⟩ | ⟨old, among, same, rfl⟩
        · exact .inl ⟨List.mem_cons_of_mem _ kept, apart⟩
        · exact .inr ⟨old, List.mem_cons_of_mem _ among, same, rfl⟩

end Step

structure Describes (rows descriptions : List Column) : Prop where
  ids : descriptions.map Column.id = distinct (rows.map Column.id)
  each : ∀ c ∈ descriptions, ofRows? rows c.id = some c

theorem Describes.step {rows descriptions : List Column} (describes : Describes rows descriptions)
    (row : Column) : Describes (rows ++ [row]) (mergeRow descriptions row) := by
  have ids := distinct_concat (rows.map Column.id) row.id
  have known_iff : row.id ∈ descriptions.map Column.id ↔ row.id ∈ rows.map Column.id := by
    rw [describes.ids, mem_distinct]
  have once : (descriptions.map Column.id).Nodup := by
    rw [describes.ids]
    exact distinct_nodup _
  by_cases known : row.id ∈ rows.map Column.id
  · constructor
    · rw [mergeRow_known (known_iff.mpr known), describes.ids, List.map_append, List.map_singleton,
        ids, if_pos known]
    · intro c member
      rcases mem_mergeRow once (known_iff.mpr known) member with
        ⟨kept, other⟩ | ⟨old, among, same, rfl⟩
      · rw [ofRows?_other other]
        exact describes.each c kept
      · have found := describes.each old among
        rw [same] at found
        change ofRows? (rows ++ [row]) old.id = _
        rw [same]
        exact ofRows?_absorb found
  · rw [mergeRow_new (mt known_iff.mp known)]
    constructor
    · rw [List.map_append, List.map_singleton, describes.ids, List.map_append, List.map_singleton,
        ids, if_neg known]
    · intro c member
      rcases List.mem_append.mp member with kept | added
      · have other : row.id ≠ c.id := by
          intro same
          exact known (known_iff.mp (same ▸ List.mem_map_of_mem kept))
        rw [ofRows?_other other]
        exact describes.each c kept
      · rw [List.mem_singleton.mp added]
        exact ofRows?_new known

theorem Describes.run {rows descriptions : List Column} (describes : Describes rows descriptions)
    (more : List Column) : Describes (rows ++ more) (more.foldl mergeRow descriptions) := by
  induction more generalizing rows descriptions with
  | nil =>
    rw [List.append_nil]
    exact describes
  | cons row more ih =>
    have later := ih (describes.step row)
    rwa [List.append_assoc, List.singleton_append] at later

theorem mergeRows_describes (rows : List Column) : Describes rows (mergeRows rows) :=
  have none : Describes [] [] := ⟨rfl, List.forall_mem_nil _⟩
  none.run rows

theorem Describes.eq_grouped {rows descriptions : List Column}
    (describes : Describes rows descriptions) : descriptions = grouped rows := by
  have own : descriptions.filterMap (fun c => ofRows? rows c.id) = descriptions := by
    rw [List.filterMap_congr describes.each, List.filterMap_some]
  rw [grouped, ← describes.ids, List.filterMap_map]
  exact own.symm

theorem foldl_mergeRow_of_nodup {descriptions rows : List Column}
    (once : ((descriptions ++ rows).map Column.id).Nodup) :
    rows.foldl mergeRow descriptions = descriptions ++ rows := by
  induction rows generalizing descriptions with
  | nil => rw [List.append_nil, List.foldl_nil]
  | cons row rest ih =>
    have fresh : row.id ∉ descriptions.map Column.id := by
      rw [List.map_append, List.map_cons, List.nodup_middle, List.nodup_cons] at once
      exact mt (List.mem_append_left _) once.1
    rw [List.foldl_cons, mergeRow_new fresh, ih, List.append_assoc, List.singleton_append]
    rwa [List.append_assoc, List.singleton_append]

theorem mergeRows_mergeRows (rows : List Column) : mergeRows (mergeRows rows) = mergeRows rows := by
  have once : (([] ++ mergeRows rows).map Column.id).Nodup := by
    rw [List.nil_append, (mergeRows_describes rows).ids]
    exact distinct_nodup _
  exact foldl_mergeRow_of_nodup once

end Column

open Column

/-- Merged rows are one description for each column, in the order of the columns' first rows, and
each is what all rows of its column say together. Merging them again changes nothing, and rows that
come later may be merged with what the earlier ones have become. -/
theorem merged_rows_grouped (rows : List Column) :
    mergeRows rows = grouped rows ∧
    (mergeRows rows).map Column.id = distinct (rows.map Column.id) ∧
    mergeRows (mergeRows rows) = mergeRows rows ∧
    ∀ more, mergeRows (rows ++ more) = mergeRows (mergeRows rows ++ more) := by
  have describes := mergeRows_describes rows
  refine ⟨describes.eq_grouped, describes.ids, mergeRows_mergeRows rows, ?_⟩
  intro more
  calc
    mergeRows (rows ++ more) = more.foldl mergeRow (mergeRows rows) := List.foldl_append
    _ = more.foldl mergeRow (mergeRows (mergeRows rows)) := by rw [mergeRows_mergeRows]
    _ = mergeRows (mergeRows rows ++ more) := List.foldl_append.symm

end Lateral
