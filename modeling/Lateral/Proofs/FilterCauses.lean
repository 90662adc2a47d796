import Lateral.Proofs.FilterRecursion

/-!
What a computation can be refused for. One that is put together from others is refused for a cause
of one of them, so the causes of a filter are those of its conditions: they lie in the schema and in
the filter, and no other cause ever comes from one.
-/

namespace Lateral

/-- The computation returns, or is refused for one of these causes. -/
structure RefusedOnly (cause : Error → Prop) {α : Type} (x : Except Error α) : Prop where
  refusal : ∀ e, x = .error e → cause e

namespace RefusedOnly

variable {α β : Type} {cause : Error → Prop}

theorem ok (a : α) : RefusedOnly cause (.ok a) := ⟨fun _ run => by cases run⟩

theorem error {e : Error} (holds : cause e) : RefusedOnly cause (.error e : Except Error α) := by
  refine ⟨fun e' run => ?_⟩
  cases run
  exact holds

theorem weaken {more : Error → Prop} {x : Except Error α} (refused : RefusedOnly cause x)
    (sub : ∀ e, cause e → more e) : RefusedOnly more x :=
  ⟨fun e run => sub e (refused.refusal e run)⟩

theorem bind {x : Except Error α} {f : α → Except Error β} (first : RefusedOnly cause x)
    (next : ∀ a, x = .ok a → RefusedOnly cause (f a)) : RefusedOnly cause (x >>= f) := by
  cases x with
  | error e => exact error (first.refusal e rfl)
  | ok a => exact next a rfl

theorem of_bind {x : Except Error α} {f : α → Except Error β}
    (whole : RefusedOnly cause (x >>= f)) : RefusedOnly cause x := by
  cases x with
  | error e => exact error (whole.refusal e rfl)
  | ok a => exact ok a

theorem map {x : Except Error α} {f : α → β} (first : RefusedOnly cause x) :
    RefusedOnly cause (f <$> x) := by
  rw [map_eq_pure_bind]
  exact first.bind fun a _ => ok (f a)

theorem check {c : Prop} [Decidable c] {e : Error} {next : PUnit → Except Error β} (holds : cause e)
    (rest : RefusedOnly cause (next ⟨⟩)) :
    RefusedOnly cause (if c then (throw e >>= next) else next ⟨⟩) := by
  split
  · exact (error holds).bind fun _ _ => rest
  · exact rest

theorem choice {c : Prop} [Decidable c] {x y : Except Error α} {next : α → Except Error β}
    (first : RefusedOnly cause (if c then x else y)) (rest : ∀ a, RefusedOnly cause (next a)) :
    RefusedOnly cause (if c then (x >>= next) else (y >>= next)) := by
  by_cases holds : c
  · rw [if_pos holds] at first ⊢
    exact first.bind fun a _ => rest a
  · rw [if_neg holds] at first ⊢
    exact first.bind fun a _ => rest a

theorem mapM {f : α → Except Error β} {xs : List α} (each : ∀ x ∈ xs, RefusedOnly cause (f x)) :
    RefusedOnly cause (xs.mapM f) := by
  induction xs with
  | nil => exact ok []
  | cons x rest ih =>
    rw [List.mapM_cons]
    refine (each x (List.mem_cons_self ..)).bind fun y _ => ?_
    exact (ih fun z member => each z (List.mem_cons_of_mem _ member)).bind fun ys _ => ok (y :: ys)

end RefusedOnly

def Error.OfFilter : Error → Prop
  | .unknownTable _ | .unknownEdge .. | .unknownColumn .. | .missingPrimaryKey ..
  | .missingSearchColumn _ | .invalidFilter _ => True
  | .unusableEdge _ _ misuse => misuse = .remoteFilter ∨ misuse = .selfFilter
  | _ => False

section Schema

variable (s : Schema) (t : Table)

theorem table_refused (name : String) : RefusedOnly Error.OfFilter (s.table name) := by
  unfold Schema.table
  split
  · exact .ok _
  · exact .error trivial

theorem edge_refused (child parent : String) :
    RefusedOnly Error.OfFilter (s.edge child parent) := by
  unfold Schema.edge
  split
  · exact .ok _
  · exact .error trivial

theorem column_refused (name : String) : RefusedOnly Error.OfFilter (t.column name) := by
  unfold Table.column
  split
  · exact .ok _
  · exact .error trivial

theorem primary_refused (field : String) : RefusedOnly Error.OfFilter (t.primary field) := by
  unfold Table.primary
  split
  · exact .ok _
  · exact .error trivial

theorem searchColumn_refused : RefusedOnly Error.OfFilter t.searchColumn := by
  unfold Table.searchColumn
  split
  · exact .ok _
  · exact .error trivial

end Schema

section Conditions

variable (s : Schema)

theorem literals_refused (sqlType : String) (items : List Operand) :
    RefusedOnly Error.OfFilter (Operand.literals sqlType items) := by
  refine .mapM fun item _ => ?_
  split
  · exact .ok _
  · exact .error trivial

theorem comparand_refused (op : Operator) (sqlType : String) (operand : Operand) :
    RefusedOnly Error.OfFilter (operand.comparand op sqlType) := by
  unfold Operand.comparand
  split
  · split <;> exact (literals_refused ..).map
  · split
    · exact .ok _
    · exact .error trivial

theorem searchWords_refused (operand : Operand) :
    RefusedOnly Error.OfFilter (Condition.searchWords operand) := by
  unfold Condition.searchWords
  split
  · exact .ok _
  · exact .ok _
  · exact .error trivial

theorem emptyListPredicate_refused (op : Operator) (column : Column) :
    RefusedOnly Error.OfFilter (Condition.emptyListPredicate op column) := by
  unfold Condition.emptyListPredicate
  split
  · exact .ok _
  · exact .ok _
  · exact .error trivial

theorem predicate_refused (t : Table) (c : Condition) :
    RefusedOnly Error.OfFilter (c.predicate s t) := by
  unfold Condition.predicate
  split
  · refine (primary_refused ..).bind fun key _ => ?_
    exact (comparand_refused ..).bind fun value _ => .ok _
  · refine (searchColumn_refused _).bind fun column _ => ?_
    exact (searchWords_refused _).bind fun words _ => .ok _
  · exact (column_refused ..).bind fun column _ => .ok _
  · refine (column_refused ..).bind fun column _ => ?_
    split
    · exact emptyListPredicate_refused ..
    · exact (comparand_refused ..).bind fun value _ => .ok _

theorem between_refused (parent : Table) (name : String) :
    RefusedOnly Error.OfFilter (Hop.between s parent name) := by
  unfold Hop.between
  refine (edge_refused ..).bind fun e _ => ?_
  refine .check (.inl rfl) ?_
  refine (table_refused ..).bind fun child _ => ?_
  exact .check (.inr rfl) (.ok _)

theorem along_refused (t : Table) (path : List String) :
    RefusedOnly Error.OfFilter (Hop.along s t path) := by
  induction path generalizing t with
  | nil => exact .ok _
  | cons name path ih =>
    refine (between_refused s t name).bind fun hop _ => ?_
    exact (ih hop.2).bind fun hops _ => .ok _

theorem leaf_refused (t : Table) (c : Condition) : RefusedOnly Error.OfFilter (c.leaf s t) := by
  refine (along_refused s t c.path).bind fun hops _ => ?_
  exact (predicate_refused s hops.2 c).bind fun p _ => .ok _

end Conditions

section Trees

variable (s : Schema) (t : Table) (f : Filter)

theorem nestedTokens_refused : RefusedOnly Error.OfFilter (Filter.nestedTokens s t f) := by
  induction f using Filter.nestedTokens.induct with
  | case1 parts ih | case2 parts ih =>
    rw [Filter.nestedTokens]
    exact (RefusedOnly.mapM fun f _ => ih f).map
  | case3 part ih =>
    rw [Filter.nestedTokens]
    exact ih.map
  | case4 =>
    rw [Filter.nestedTokens]
    exact .ok _
  | case5 c =>
    rw [Filter.nestedTokens]
    exact (leaf_refused s t c).map

theorem tokens_refused : RefusedOnly Error.OfFilter (f.tokens s t) := by
  rw [Filter.tokens_eq_nested]
  exact nestedTokens_refused s t f

theorem filter_refused : RefusedOnly Error.OfFilter (f.sql s t) :=
  (tokens_refused s t f).bind fun _ _ => .ok _

end Trees

end Lateral
