import Lateral.Query.FieldKind
import Mathlib.Data.List.Basic

/-!
Names of aggregates. The names of the functions overlap, and a function behind which nothing stands
gives way to a shorter one, so the order of the table and the test for a column decide together.
The function taken is the longest of all that fit, and only the deviations ever compete.
-/

namespace Lateral

namespace Aggregate

def opening (f : Aggregate) : String := f.name ++ "_"

structure Splits (f : Aggregate) (column name : String) : Prop where
  text : name = f.opening ++ column
  filled : column ≠ ""

variable {f g : Aggregate} {name column other : String}

theorem Splits.starts (fits : f.Splits column name) : f.opening.toList <+: name.toList := by
  rw [fits.text, String.toList_append]
  exact List.prefix_append ..

theorem Splits.column_eq (fits : f.Splits column name) (again : f.Splits other name) :
    column = other :=
  (String.append_right_inj f.opening).mp (fits.text.symm.trans again.text)

theorem argument?_eq_some_iff :
    argument? f.opening name = some column ↔ f.Splits column name := by
  have parted (rest : List Char) : f.opening.toList.isPrefixOf? name.toList = some rest ↔
      name = f.opening ++ String.ofList rest := by
    rw [List.isPrefixOf?_eq_some_iff_append_eq, ← String.toList_inj, String.toList_append,
      String.toList_ofList, eq_comm]
  rw [argument?]
  constructor
  · intro found
    split at found
    · rename_i c rest cut
      cases found
      refine ⟨(parted _).mp cut, ?_⟩
      intro empty
      exact List.cons_ne_nil c rest (String.ofList_eq_empty_iff.mp empty)
    · cases found
  · rintro ⟨text, filled⟩
    have cut : f.opening.toList.isPrefixOf? name.toList = some column.toList :=
      (parted _).mpr (by rw [String.ofList_toList, text])
    cases chars : column.toList with
    | nil => exact absurd (String.toList_eq_nil_iff.mp chars) filled
    | cons c rest =>
      rw [cut, chars]
      exact congrArg some (by rw [← chars, String.ofList_toList])

theorem argument?_eq_none_iff :
    argument? f.opening name = none ↔ ∀ column, ¬ f.Splits column name := by
  simp only [Option.eq_none_iff_forall_ne_some, Ne, argument?_eq_some_iff]

/-- The table on inspection. Its texts are those of its functions, the longer ones come first, and
one text starts another only among the deviations. -/
theorem openings_inspected :
    (∀ e ∈ openings, e.1 = e.2.opening) ∧
    openings.Pairwise (fun e d => d.1.length ≤ e.1.length) ∧
    (∀ e ∈ openings, ∀ d ∈ openings, e.1.toList <+: d.1.toList →
      e.2 = d.2 ∨ e.2 = .stddev ∧ (d.2 = .stddevPop ∨ d.2 = .stddevSamp)) ∧
    stddev.opening.length < stddevPop.opening.length ∧
    stddev.opening.length < stddevSamp.opening.length := by
  decide +kernel

theorem opening_of_mem {start : String} (listed : (start, f) ∈ openings) : start = f.opening := by
  obtain ⟨agrees, -⟩ := openings_inspected
  exact agrees (start, f) listed

theorem opening_mem (f : Aggregate) : (f.opening, f) ∈ openings := by
  have listed : f ∈ openings.map Prod.snd := by cases f <;> decide
  obtain ⟨⟨start, g⟩, member, rfl⟩ := List.mem_map.mp listed
  obtain rfl := opening_of_mem member
  exact member

theorem eq_or_stddev_of_starts (starts : f.opening.toList <+: g.opening.toList) :
    f = g ∨ f = .stddev ∧ (g = .stddevPop ∨ g = .stddevSamp) := by
  obtain ⟨-, -, apart, -⟩ := openings_inspected
  exact apart (f.opening, f) (opening_mem f) (g.opening, g) (opening_mem g) starts

theorem Splits.overlap (fits : f.Splits column name) (rival : g.Splits other name)
    (shorter : f.opening.length ≤ g.opening.length) :
    f = g ∨ f = .stddev ∧ (g = .stddevPop ∨ g = .stddevSamp) := by
  refine eq_or_stddev_of_starts (List.prefix_of_prefix_length_le fits.starts rival.starts ?_)
  rwa [String.length_toList, String.length_toList]

theorem split?_eq_none_iff : split? name = none ↔ ∀ f column, ¬ Splits f column name := by
  rw [split?, List.findSome?_eq_none_iff]
  constructor
  · intro unfit f
    have missing : argument? f.opening name = none :=
      Option.map_eq_none_iff.mp (unfit (f.opening, f) (opening_mem f))
    exact argument?_eq_none_iff.mp missing
  · rintro unfit ⟨start, f⟩ listed
    obtain rfl := opening_of_mem listed
    exact Option.map_eq_none_iff.mpr (argument?_eq_none_iff.mpr (unfit f))

theorem splits_of_split? (found : split? name = some (f, column)) : f.Splits column name := by
  obtain ⟨⟨start, g⟩, listed, here⟩ := List.exists_of_findSome?_eq_some found
  obtain rfl := opening_of_mem listed
  obtain ⟨_, fits, same⟩ := Option.map_eq_some_iff.mp here
  cases same
  exact argument?_eq_some_iff.mp fits

theorem longest_of_split? (found : split? name = some (f, column)) (rival : g.Splits other name) :
    g.opening.length ≤ f.opening.length := by
  obtain ⟨front, ⟨start, h⟩, back, table, here, passed⟩ := List.findSome?_eq_some_iff.mp found
  obtain ⟨_, _, same⟩ := Option.map_eq_some_iff.mp here
  cases same
  obtain ⟨-, sorted, -⟩ := openings_inspected
  have taken : (start, h) ∈ openings := by simp [table]
  have listed := opening_mem g
  obtain rfl := opening_of_mem taken
  rw [table] at sorted listed
  rcases List.mem_append.mp listed with before | later
  · have unfit : argument? g.opening name = none :=
      Option.map_eq_none_iff.mp (passed (g.opening, g) before)
    exact absurd rival (argument?_eq_none_iff.mp unfit other)
  · rcases List.mem_cons.mp later with same | behind
    · obtain ⟨-, rfl⟩ := Prod.mk.inj same
      exact Nat.le_refl _
    · have shorter := (List.pairwise_cons.mp (List.pairwise_append.mp sorted).2.1).1 _ behind
      exact shorter

theorem Splits.taken (fits : f.Splits column name) :
    split? name = some (f, column) ∨ f = .stddev ∧ ∃ other,
      split? name = some (.stddevPop, other) ∨ split? name = some (.stddevSamp, other) := by
  cases result : split? name with
  | none => exact absurd fits (split?_eq_none_iff.mp result f column)
  | some pair =>
    obtain ⟨g, other⟩ := pair
    have rival := splits_of_split? result
    rcases fits.overlap rival (longest_of_split? result fits) with rfl | ⟨plain, rfl | rfl⟩
    · rw [fits.column_eq rival]
      exact .inl rfl
    · exact .inr ⟨plain, other, .inl rfl⟩
    · exact .inr ⟨plain, other, .inr rfl⟩

end Aggregate

open Aggregate

/-- A name is split at the longest function that leaves a column, and left alone only if none does.
What is written for a function and a column is read back as written, except that a column of the
plain deviation may turn it into one of the other two. -/
theorem longest_function_taken (name : String) :
    (∀ (f : Aggregate) column, split? name = some (f, column) ↔
      f.Splits column name ∧ ∀ (g : Aggregate) other, g.Splits other name →
        g.opening.length ≤ f.opening.length) ∧
    (split? name = none ↔ ∀ (f : Aggregate) column, ¬ f.Splits column name) ∧
    ∀ (f : Aggregate) column, f.Splits column name →
      split? name = some (f, column) ∨ f = .stddev ∧ ∃ other,
        split? name = some (.stddevPop, other) ∨ split? name = some (.stddevSamp, other) := by
  refine ⟨?_, split?_eq_none_iff, fun f column fits => fits.taken⟩
  intro f column
  obtain ⟨-, -, -, pop_longer, samp_longer⟩ := openings_inspected
  constructor
  · intro found
    exact ⟨splits_of_split? found, fun g other rival => longest_of_split? found rival⟩
  · rintro ⟨fits, longest⟩
    rcases fits.taken with found | ⟨rfl, other, found | found⟩
    · exact found
    -- the other two deviations are longer than the plain one, which nothing that fits may be
    · exact absurd (longest _ other (splits_of_split? found)) (Nat.not_le_of_lt pop_longer)
    · exact absurd (longest _ other (splits_of_split? found)) (Nat.not_le_of_lt samp_longer)

example : split? "stddev_pop_" = some (.stddev, "pop_") ∧
    split? "stddev_pop_samp_x" = some (.stddevPop, "samp_x") ∧ split? "count_" = none := by
  decide +kernel

end Lateral
