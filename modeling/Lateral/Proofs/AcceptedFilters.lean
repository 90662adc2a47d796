import Lateral.Proofs.FilterPlaces
import Lateral.Proofs.FilterScopes

/-!
JSON filters that are accepted. A filter is refused for what stands at one of its places, and never
for the way the places stand together. The depth is looked at where an object must stand, which an
object under a combinator is not, so such objects may be nested without bound. What is accepted has
no needless group in it, and every condition finds its table and column again when it is written.
-/

namespace Lateral
open Outcome

namespace Filter

namespace Place

variable {s : Schema}

/-- What stands at the place can be made a filter of, if the places inside it can. -/
def Formed (s : Schema) (p : Place) : Prop :=
  match p.role s with
  | .group _ | .negation | .passage => p.inner s ≠ []
  | .condition _ => True
  | .refusal _ => False

theorem combine_returns (group : List Filter → Filter) (parts : List Filter) :
    (∃ f, combine group parts = .ok f) ↔ parts ≠ [] := by
  match parts with
  | [] => simp [combine]
  | [f] => simp [combine]
  | f :: g :: rest => simp [combine]

theorem build_returns {p : Place} {parts : List Filter}
    (length : (p.inner s).length = parts.length) :
    (∃ f, (p.role s).build parts = .ok f) ↔ p.Formed s := by
  have some_inside : p.inner s ≠ [] ↔ parts ≠ [] := by
    rw [← List.length_pos_iff, ← List.length_pos_iff, length]
  unfold Formed
  cases p.role s with
  | group c => exact (combine_returns c.group parts).trans some_inside.symm
  | negation =>
    simp only [Role.build, map_eq_ok]
    rw [some_inside, ← combine_returns .all]
    constructor
    · rintro ⟨f, g, made, -⟩
      exact ⟨g, made⟩
    · rintro ⟨g, made⟩
      exact ⟨_, g, made, rfl⟩
  | passage => exact (combine_returns .all parts).trans some_inside.symm
  | condition c => simp [Role.build]
  | refusal e => simp [Role.build]

theorem filter_returns_iff (p : Place) : (∃ f, p.filter s = .ok f) ↔
    p.slot.check = .ok () ∧ p.Formed s ∧ ∀ q ∈ p.inner s, ∃ g, q.filter s = .ok g := by
  constructor
  · rintro ⟨f, run⟩
    obtain ⟨passed, parts, made, built⟩ := filter_eq_ok.mp run
    refine ⟨passed, (build_returns made.length_eq).mp ⟨f, built⟩, ?_⟩
    intro q inside
    obtain ⟨g, -, own⟩ := forall₂_mem_left made inside
    exact ⟨g, own⟩
  · rintro ⟨passed, formed, each⟩
    obtain ⟨parts, made⟩ := mapM_returns each
    have length := (mapM_eq_ok.mp made).length_eq
    obtain ⟨f, built⟩ := (build_returns length).mpr formed
    exact ⟨f, filter_eq_ok.mpr ⟨passed, parts, mapM_eq_ok.mp made, built⟩⟩

/-- A filter is refused at a place of its own, and never for the way its places stand together. -/
theorem accepted_iff (p : Place) : (∃ f, p.filter s = .ok f) ↔
    ∀ q, Within s p q → q.slot.check = .ok () ∧ q.Formed s := by
  -- What a place asks of itself is the same on both sides; the rest is asked of the places inside.
  induction p using induct s with
  | step p ih =>
    rw [filter_returns_iff, forall_within_iff, and_assoc]
    refine and_congr_right fun _ => and_congr_right fun _ => ?_
    exact forall₂_congr ih

theorem check_eq_ok {p : Place} : p.slot.check = .ok () ↔
    ∀ t path depth value, p = ⟨.object t path depth, value⟩ → depth ≤ maxDepth := by
  obtain ⟨slot, value⟩ := p
  cases slot with
  | object t path depth =>
    simp only [Slot.check, requireDepth_eq_ok, Place.mk.injEq, Slot.object.injEq]
    constructor
    · rintro bound t' path' depth' value' ⟨⟨-, -, rfl⟩, -⟩
      exact bound
    · intro all
      exact all t path depth value ⟨⟨rfl, rfl, rfl⟩, rfl⟩
  | entry => simp [Slot.check]
  | operator => simp [Slot.check]

end Place

end Filter

/-- A JSON value is accepted as a filter exactly if something stands at each of its places that a
filter can be made of, and no object that must stand at its place lies below more combinators and
related tables than the bound allows. Other places may lie at any depth. -/
theorem nesting_accepted_iff (s : Schema) (t : Table) (value : Json) :
    (∃ f, Filter.ofPayload s t value = .ok f) ↔
      (∀ q, Filter.Place.Within s (.root t value) q → q.Formed s) ∧
      ∀ u path depth object, Filter.Place.Within s (.root t value) ⟨.object u path depth, object⟩ →
        depth ≤ Filter.maxDepth := by
  have places := Filter.Place.accepted_iff (s := s) (.root t value)
  refine places.trans ?_
  constructor
  · intro all
    refine ⟨fun q below => (all q below).2, ?_⟩
    intro u path depth object below
    exact Filter.Place.check_eq_ok.mp (all _ below).1 u path depth object rfl
  · rintro ⟨formed, bounded⟩ q below
    refine ⟨Filter.Place.check_eq_ok.mpr ?_, formed q below⟩
    rintro u path depth object rfl
    exact bounded u path depth object below

namespace Filter

def conjoined : Nat → Json → Json
  | 0, value => value
  | n + 1, value => .obj [("and", conjoined n value)]

section Conjoined

variable {s : Schema} {t : Table} {column : String} {value : Json}

theorem conjoined_read {f : Filter} (run : ∀ depth, ofEntry s t [] depth column value = .ok f)
    (n depth : Nat) :
    ofEntry s t [] depth "and" (conjoined n (.obj [(column, value)])) = .ok f := by
  have meaning : KeyMeaning.of s t "and" = .all := rfl
  induction n generalizing depth with
  | zero =>
    simp only [conjoined, ofEntry, meaning, ofFields, run]
    rfl
  | succ n ih =>
    simp only [conjoined, ofEntry, meaning, ofFields, ih]
    rfl

theorem conjoined_accepted {f : Filter} (run : ∀ depth, ofEntry s t [] depth column value = .ok f)
    (n : Nat) : ofPayload s t (conjoined (n + 1) (.obj [(column, value)])) = .ok f := by
  simp only [ofPayload, conjoined, ofObject, ofFields, conjoined_read run]
  rfl

theorem conjoined_within (n depth : Nat) :
    Place.Within s ⟨.entry t [] depth "and", conjoined n (.obj [(column, value)])⟩
      ⟨.entry t [] (depth + n + 1) column, value⟩ := by
  have meaning : (KeyMeaning.of s t "and").connective?.isSome := rfl
  induction n generalizing depth with
  | zero => exact .single (.grouped meaning List.mem_cons_self)
  | succ n ih =>
    have first : Place.Opens s ⟨.entry t [] depth "and", conjoined (n + 1) (.obj [(column, value)])⟩
        ⟨.entry t [] (depth + 1) "and", conjoined n (.obj [(column, value)])⟩ :=
      .grouped meaning List.mem_cons_self
    have rest := ih (depth + 1)
    rw [Nat.add_right_comm depth 1 n] at rest
    exact .head first rest

end Conjoined

end Filter

theorem forty_levels_accepted : ∃ s t f, Schema.ofCatalog quizCatalog {} = .ok s ∧
    s.table "humans" = .ok t ∧
    Filter.Place.Within s (.root t (Filter.conjoined 40 (.obj [("id", .int 7)])))
      ⟨.entry t [] 40 "id", .int 7⟩ ∧ Filter.maxDepth < 40 ∧
    Filter.ofPayload s t (Filter.conjoined 40 (.obj [("id", .int 7)])) = .ok f := by
  have named : (Schema.ofCatalog quizCatalog {} >>= fun s => s.table "humans" >>= fun t =>
      .ok (t.column? "id").isSome) = .ok true := by
    decide +kernel
  obtain ⟨s, built, named⟩ := bind_eq_ok.mp named
  obtain ⟨t, found, named⟩ := bind_eq_ok.mp named
  have known : (t.column? "id").isSome = true := Except.ok.inj named
  have meaning : Filter.KeyMeaning.of s t "id" = .column := by simp [Filter.KeyMeaning.of, known]
  refine ⟨s, t, .leaf ⟨[], "id", .equals, .int 7⟩, built, found, ?_, by decide, ?_⟩
  · exact .head (.field List.mem_cons_self) (Filter.conjoined_within 39 0)
  · apply Filter.conjoined_accepted
    intro depth
    exact Filter.ofEntry_column s t [] depth meaning (.int 7)

inductive Trail (s : Schema) : Table → List String → Table → Prop where
  | done (t : Table) : Trail s t [] t
  | step {t child last : Table} {name : String} {path : List String}
      (found : s.table name = .ok child) (rest : Trail s child path last) :
      Trail s t (name :: path) last

theorem Trail.snoc {s : Schema} {t last child : Table} {path : List String} {name : String}
    (trail : Trail s t path last) (found : s.table name = .ok child) :
    Trail s t (path ++ [name]) child := by
  induction trail with
  | done t => exact .step found (.done child)
  | step first _ ih => exact .step first ih

def Condition.Resolves (s : Schema) (t : Table) (c : Condition) : Prop :=
  ∃ last, Trail s t c.path last ∧ (last.column? c.column).isSome

namespace Filter

inductive WellFormed (s : Schema) (t : Table) : Filter → Prop where
  | all {parts : List Filter} (several : 2 ≤ parts.length)
      (each : ∀ f ∈ parts, WellFormed s t f) : WellFormed s t (.all parts)
  | any {parts : List Filter} (several : 2 ≤ parts.length)
      (each : ∀ f ∈ parts, WellFormed s t f) : WellFormed s t (.any parts)
  | not {f : Filter} (part : WellFormed s t f) : WellFormed s t (.not f)
  | leaf {c : Condition} (resolves : c.Resolves s t) : WellFormed s t (.leaf c)

section Read

variable {s : Schema} {t : Table}

theorem KeyMeaning.of_column {key : String} (meaning : KeyMeaning.of s t key = .column) :
    (t.column? key).isSome := by
  unfold KeyMeaning.of at meaning
  split_ifs at meaning with _ _ _ known
  · exact known
  · split at meaning <;> cases meaning

theorem KeyMeaning.of_related {key : String} {child : Table}
    (meaning : KeyMeaning.of s t key = .related child) : s.table key = .ok child := by
  unfold KeyMeaning.of at meaning
  split_ifs at meaning
  split at meaning
  · cases meaning
    rename_i found
    exact Schema.table_eq_ok.mpr found
  · cases meaning

def Place.Reached (s : Schema) (t : Table) (p : Place) : Prop :=
  match p.slot with
  | .object u path _ | .entry u path _ _ => Trail s t path u
  | .operator path column _ => ∃ u, Trail s t path u ∧ (u.column? column).isSome

theorem Place.Opens.reached {p q : Place} (opens : Opens s p q) (reached : p.Reached s t) :
    q.Reached s t := by
  cases opens with
  | field | grouped | listed | negated => exact reached
  | related meaning => exact Trail.snoc reached (KeyMeaning.of_related meaning)
  | compared meaning => exact ⟨_, reached, KeyMeaning.of_column meaning⟩

theorem Place.role_resolves {p : Place} {c : Condition} (reached : p.Reached s t)
    (role : p.role s = .condition c) : c.Resolves s t := by
  unfold Place.Reached at reached
  rcases Place.role_eq_condition role with ⟨u, path, depth, key, slot, meaning, read⟩ |
    ⟨path, column, code, op, slot, rfl⟩
  · obtain ⟨rfl, rfl, -, -⟩ := Place.columnRole_condition read
    rw [slot] at reached
    exact ⟨u, reached, KeyMeaning.of_column meaning⟩
  · rw [slot] at reached
    exact reached

theorem combine_wellFormed (c : Connective) {parts : List Filter} {f : Filter}
    (each : ∀ g ∈ parts, WellFormed s t g) (run : combine c.group parts = .ok f) :
    WellFormed s t f := by
  match parts with
  | [] => cases run
  | [g] =>
    cases run
    exact each f List.mem_cons_self
  | g :: h :: rest =>
    cases run
    have several : 2 ≤ (g :: h :: rest).length := by simp
    cases c with
    | and => exact .all several each
    | or => exact .any several each

theorem Place.filter_wellFormed (p : Place) : ∀ f, p.Reached s t → p.filter s = .ok f →
    WellFormed s t f := by
  induction p using Place.induct s with
  | step p ih =>
    intro f reached run
    obtain ⟨-, parts, made, built⟩ := Place.filter_eq_ok.mp run
    have each : ∀ g ∈ parts, WellFormed s t g := by
      intro g member
      obtain ⟨q, inside, own⟩ := forall₂_mem_left made.flip member
      exact ih q inside g ((Place.opens_of_inner inside).reached reached) own
    cases role : p.role s with
    | group c =>
      rw [role] at built
      exact combine_wellFormed c each built
    | negation =>
      rw [role] at built
      obtain ⟨g, made, rfl⟩ := map_eq_ok.mp built
      exact .not (combine_wellFormed .and each made)
    | passage =>
      rw [role] at built
      exact combine_wellFormed .and each built
    | condition c =>
      rw [role] at built
      cases built
      exact .leaf (Place.role_resolves reached role)
    | refusal e =>
      rw [role] at built
      cases built

end Read

end Filter

def Error.isUnknownName : Error → Bool
  | .unknownTable _ | .unknownColumn _ _ => true
  | _ => false

section Written

variable {s : Schema} {t : Table} {e : Error}

theorem Operand.literals_refusal {sqlType : String} {items : List Operand}
    (run : literals sqlType items = .error e) : e = .invalidFilter .nestedList := by
  obtain ⟨-, item, -, -, -, refused⟩ := mapM_eq_error run
  split at refused
  · cases refused
  · exact (Except.error.inj refused).symm

theorem Operand.comparand_refusal {op : Operator} {sqlType : String} {operand : Operand}
    (run : operand.comparand op sqlType = .error e) : e = .invalidFilter .nestedList := by
  unfold comparand at run
  split at run
  · rename_i items
    cases listed : literals sqlType items with
    | error e' =>
      have same : e' = e := by
        rw [listed] at run
        split at run <;> exact Except.error.inj run
      rw [← same]
      exact literals_refusal listed
    | ok values =>
      rw [listed] at run
      split at run <;> cases run
  · split at run
    · cases run
    · exact (Except.error.inj run).symm

theorem Table.column_returns {name : String} (known : (t.column? name).isSome) :
    ∃ c, t.column name = .ok c := by
  obtain ⟨c, found⟩ := Option.isSome_iff_exists.mp known
  refine ⟨c, ?_⟩
  rw [Table.column, found]

theorem Condition.predicate_refusal {c : Condition} (known : (t.column? c.column).isSome)
    (run : c.predicate s t = .error e) : e.isUnknownName = false := by
  obtain ⟨column, found⟩ := Table.column_returns known
  unfold Condition.predicate at run
  -- The first two operators look for a key and a search column in place of the named column.
  split at run
  · rcases bind_eq_error.mp run with refused | ⟨key, -, run⟩
    · unfold Table.primary at refused
      split at refused
      · cases refused
      · cases refused
        rfl
    · rcases bind_eq_error.mp run with refused | ⟨operand, -, run⟩
      · rw [Operand.comparand_refusal refused]
        rfl
      · cases run
  · rcases bind_eq_error.mp run with refused | ⟨key, -, run⟩
    · unfold Table.searchColumn at refused
      split at refused
      · cases refused
      · cases refused
        rfl
    · rcases bind_eq_error.mp run with refused | ⟨operand, -, run⟩
      · unfold Condition.searchWords at refused
        split at refused <;> cases refused
        rfl
      · cases run
  · rw [found] at run
    cases run
  · rw [found] at run
    rcases bind_eq_error.mp run with refused | ⟨column, -, run⟩
    · cases refused
    · split at run
      · unfold Condition.emptyListPredicate at run
        split at run <;> cases run
        rfl
      · rcases bind_eq_error.mp run with refused | ⟨operand, -, run⟩
        · rw [Operand.comparand_refusal refused]
          rfl
        · cases run

theorem Hop.between_refusal {name : String} {child : Table} (found : s.table name = .ok child)
    (run : Hop.between s t name = .error e) : e.isUnknownName = false := by
  unfold Hop.between at run
  rcases bind_eq_error.mp run with refused | ⟨edge, -, run⟩
  · unfold Schema.edge at refused
    split at refused
    · cases refused
    · cases refused
      rfl
  · split at run
    · cases run
      rfl
    · rw [found] at run
      rcases bind_eq_error.mp run with refused | ⟨u, -, run⟩
      · cases refused
      · split at run
        · cases run
          rfl
        · cases run

/-- The writer goes the way of the reader: along the tables that the names of the path find. -/
theorem Trail.along {path : List String} {last : Table} (trail : Trail s t path last) :
    (∃ hops, Hop.along s t path = .ok (hops, last)) ∨
      ∃ e, Hop.along s t path = .error e ∧ e.isUnknownName = false := by
  induction trail with
  | done t => exact Or.inl ⟨[], rfl⟩
  | @step t child last name path found _ ih =>
    rw [Hop.along]
    cases made : Hop.between s t name with
    | error e => exact Or.inr ⟨e, rfl, Hop.between_refusal found made⟩
    | ok step =>
      obtain ⟨hop, reached⟩ := step
      obtain ⟨_, -, -, below, -, -⟩ := Hop.between_made made
      cases Except.ok.inj (below.symm.trans found)
      rcases ih with ⟨hops, run⟩ | ⟨e, run, known⟩
      · exact Or.inl ⟨hop :: hops, bind_eq_ok.mpr ⟨_, rfl, bind_eq_ok.mpr ⟨_, run, rfl⟩⟩⟩
      · exact Or.inr ⟨e, bind_eq_error.mpr (Or.inr ⟨_, rfl, bind_eq_error.mpr (Or.inl run)⟩), known⟩

theorem Condition.leaf_refusal {c : Condition} (resolves : c.Resolves s t)
    (run : c.leaf s t = .error e) : e.isUnknownName = false := by
  obtain ⟨last, trail, known⟩ := resolves
  rcases trail.along with ⟨hops, along⟩ | ⟨e', along, spared⟩
  · have rest : (c.predicate s last >>= fun p => pure (⟨hops, p⟩ : Leaf)) = .error e := by
      rw [Condition.leaf, along] at run
      exact run
    rcases bind_eq_error.mp rest with refused | ⟨p, -, returned⟩
    · exact Condition.predicate_refusal known refused
    · cases returned
  · rw [Condition.leaf, along] at run
    cases run
    exact spared

namespace Filter

theorem nestedTokens_refusal {f : Filter} (formed : WellFormed s t f)
    (run : nestedTokens s t f = .error e) :
    ∃ c : Condition, c.Resolves s t ∧ c.leaf s t = .error e := by
  have among {parts : List Filter}
      (each : ∀ g ∈ parts, nestedTokens s t g = .error e →
        ∃ c : Condition, c.Resolves s t ∧ c.leaf s t = .error e)
      (run : (canonicalOrder parts).mapM (nestedTokens s t) = .error e) :
      ∃ c : Condition, c.Resolves s t ∧ c.leaf s t = .error e := by
    obtain ⟨before, g, after, ordered, -, refused⟩ := mapM_eq_error run
    have member : g ∈ canonicalOrder parts := by simp [ordered]
    exact each g ((canonicalOrder_perm parts).mem_iff.mp member) refused
  induction formed with
  | all _ _ ih =>
    rw [nestedTokens_all] at run
    exact among ih (map_eq_error.mp run)
  | any _ _ ih =>
    rw [nestedTokens_any] at run
    exact among ih (map_eq_error.mp run)
  | not _ ih =>
    rw [nestedTokens] at run
    exact ih (map_eq_error.mp run)
  | leaf resolves =>
    rw [nestedTokens] at run
    exact ⟨_, resolves, map_eq_error.mp run⟩

theorem WellFormed.refusal {f : Filter} (formed : WellFormed s t f) (run : f.sql s t = .error e) :
    e.isUnknownName = false := by
  rcases bind_eq_error.mp run with refused | ⟨tokens, -, run⟩
  · rw [tokens_eq_nested] at refused
    obtain ⟨c, resolves, refused⟩ := nestedTokens_refusal formed refused
    exact Condition.leaf_refusal resolves refused
  · cases run

end Filter

end Written

/-- A filter that was accepted has groups of several parts only, and nothing in it that no row
passes. The path of each condition leads from registered table to registered table, and its column
is there at the end, so the filter is never refused for an unknown name when it is written. -/
theorem accepted_filter_resolves {s : Schema} {t : Table} {value : Json} {f : Filter}
    (accepted : Filter.ofPayload s t value = .ok f) :
    f.WellFormed s t ∧ ∀ e, f.sql s t = .error e → e.isUnknownName = false := by
  have reached : (Filter.Place.root t value).Reached s t := .done t
  have formed := Filter.Place.filter_wellFormed (.root t value) f reached accepted
  exact ⟨formed, fun e => formed.refusal⟩

/-- Volcanoes with a human in question, or that stand in a relation to themselves, which is none. -/
def humanOrSelf : Json :=
  .obj [("or", .arr [
    .obj [("Humans", .obj [("id", .obj [("gt", .int 3), ("in", .arr [.int 5])]),
      ("not", .obj [("quiz", .obj [("checker_ID", .null)])])])],
    .obj [("volcano", .obj [("ID", .int 7)])]])]

theorem humanOrSelf_resolves : ∃ s t f, Schema.ofCatalog quizCatalog {} = .ok s ∧
    s.table "volcanoes" = .ok t ∧ Filter.ofPayload s t humanOrSelf = .ok f ∧ f.WellFormed s t ∧
    ∀ e, f.sql s t = .error e → e.isUnknownName = false := by
  have read : (Schema.ofCatalog quizCatalog {} >>= fun s => s.table "volcanoes" >>= fun t =>
      (fun _ => ()) <$> Filter.ofPayload s t humanOrSelf) = .ok () := by
    decide +kernel
  obtain ⟨s, built, read⟩ := bind_eq_ok.mp read
  obtain ⟨t, found, read⟩ := bind_eq_ok.mp read
  obtain ⟨f, accepted, -⟩ := map_eq_ok.mp read
  exact ⟨s, t, f, built, found, accepted, accepted_filter_resolves accepted⟩

end Lateral
