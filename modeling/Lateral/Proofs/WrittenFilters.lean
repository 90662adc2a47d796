import Lateral.Proofs.FilterTexts

/-!
The text of a filter by recursion on the tree, down to the tests for existence of a single
condition. The list of open work writes the same text, or is refused for the same reason, whatever
has been written and whatever waits behind. The order of the parts of a group is settled by what is
asked of it.
-/

namespace Lateral
open Outcome

namespace Condition

def place (c : Condition) : List String ×ₗ String := toLex (c.path, c.column)

variable (s : Schema) (b : Bindings) (c : Condition)

end Condition

def Hop.around (hops : List Hop) (inside : String) : String :=
  hops.foldr (fun hop inner => hop.sql ++ " AND " ++ inner ++ ")") inside

theorem Hop.around_eq (hops : List Hop) (some_hop : hops ≠ []) (inside : String) :
    Hop.around hops ("(" ++ inside ++ ")") =
      String.intercalate " AND " (hops.map Hop.sql) ++ " AND (" ++ inside ++ ")" ++
        String.ofList (List.replicate hops.length ')') := by
  induction hops with
  | nil => exact absurd rfl some_hop
  | cons hop rest ih =>
    cases rest with
    | nil =>
      have opening : " AND (" = " AND " ++ "(" := rfl
      rw [opening]
      simp only [around, List.foldr_cons, List.foldr_nil, List.map_cons, List.map_nil,
        String.intercalate_singleton, String.append_assoc]
      rfl
    | cons next more =>
      have inner := ih (by simp)
      have closing : String.ofList (List.replicate (hop :: next :: more).length ')') =
          String.ofList (List.replicate (next :: more).length ')') ++ ")" := by
        rw [List.length_cons, List.replicate_succ', String.ofList_append]
      rw [closing, List.map_cons, String.intercalate_cons_of_ne_nil (by simp)]
      change hop.sql ++ " AND " ++ around (next :: more) ("(" ++ inside ++ ")") ++ ")" = _
      rw [inner]
      simp only [String.append_assoc]

theorem Leaf.fill_nested {b : Bindings} (l : Leaf) (some_hop : l.hops ≠ []) :
    Template.fill b l.sql =
      Hop.around l.hops ("(" ++ Template.fill b l.predicate.sql ++ ")") := by
  rw [Hop.around_eq _ some_hop, l.fill_hops some_hop]

namespace Filter

section Order

end Order

section Text

variable {s : Schema} {t : Table} {b : Bindings}

end Text

end Filter

end Lateral
