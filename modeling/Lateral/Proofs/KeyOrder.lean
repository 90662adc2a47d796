import Lateral.Proofs.RelationshipGraph
import Lateral.Proofs.ShuffledKeys

/-!
Whether the order of keys in a JSON filter shows. It decides neither whether the filter is accepted
nor whether it is written, but the texts for two orders may differ: parts of equal rank are written
as they came, and an object that is compared with a column stands for its text. A place where
neither shows is calm, and the order of keys is hidden exactly if all places are.
-/

namespace Lateral

namespace Filter
open Outcome

section Calm

variable {s : Schema} {t : Table} {b : Bindings}

/-- The order of keys does not show at the place itself. Entries of equal rank may change places,
and only a null test has an operand that depends on the order. -/
structure Place.Calm (s : Schema) (t : Table) (b : Bindings) (p : Place) : Prop where
  ties : ∀ c fields, p.role s = .group c → p.value = .obj fields → ∀ q ∈ p.inner s,
    ∀ r ∈ p.inner s, ∀ l m, q.line? s t b = some l → r.line? s t b = some m → l.rank = m.rank →
      Line.Trade c l m
  operand : ∀ c, p.role s = .condition c → c.operator = .isNull ∨
    ∀ v, p.value.Shuffled v → Operand.ofPayload v = Operand.ofPayload p.value

theorem leaf_line?_eq_some {c : Condition} {k : Line}
    (line : (Filter.leaf c).line? s t b = some k) :
    ∃ l, c.leaf s t = .ok l ∧ l.sql.fill b = k.text := by
  rw [Filter.line?, text_leaf] at line
  cases made : c.leaf s t with
  | error e =>
    rw [made] at line
    cases line
  | ok l =>
    rw [made] at line
    cases line
    exact ⟨l, rfl, rfl⟩

theorem Place.line?_condition {p : Place} {c : Condition} (role : p.role s = .condition c) :
    p.line? s t b = p.slot.check.toOption.bind fun _ => (Filter.leaf c).line? s t b := by
  rw [Place.line?_eq, role, Place.inner_condition role]
  rfl

theorem Place.Calm.condition {p p' : Place} {path : List String} {column : String} {op : Operator}
    (calm : p.Calm s t b) (shuffled : p.Shuffled p')
    (role : p.role s = .condition ⟨path, column, op, Operand.ofPayload p.value⟩)
    (role' : p'.role s = .condition ⟨path, column, op, Operand.ofPayload p'.value⟩) :
    p'.line? s t b = p.line? s t b := by
  have same : (Filter.leaf ⟨path, column, op, Operand.ofPayload p'.value⟩).line? s t b =
      (Filter.leaf ⟨path, column, op, Operand.ofPayload p.value⟩).line? s t b := by
    rcases calm.operand _ role with null | kept
    · cases null
      rw [Filter.line?, Filter.line?, text_leaf, text_leaf,
        Condition.leaf_null_shuffled shuffled.value]
      rfl
    · rw [kept p'.value shuffled.value]
  rw [Place.line?_condition role, Place.line?_condition role', shuffled.slot, same]

theorem joined_reordered {c : Connective} {places places' : List Place}
    (order : places.Perm places')
    (ties : ∀ lines, places.mapM (Place.line? s t b) = some lines → ∀ l ∈ lines, ∀ m ∈ lines,
      l.rank = m.rank → Line.Trade c l m) :
    (places'.mapM (Place.line? s t b)).bind (Line.joined c) =
      (places.mapM (Place.line? s t b)).bind (Line.joined c) := by
  cases run : places.mapM (Place.line? s t b) with
  | none => rw [option_mapM_perm_none order run]
  | some lines =>
    obtain ⟨lines', there, perm⟩ := option_mapM_perm order run
    rw [there]
    exact (Line.joined_perm perm (ties lines run)).symm

theorem Place.line?_of_calm (p : Place) : (∀ q, Within s p q → q.Calm s t b) →
    ∀ p', p.Shuffled p' → p'.line? s t b = p.line? s t b := by
  induction p using Place.induct s with
  | step p ih =>
    intro calm p' shuffled
    obtain ⟨here, inside⟩ := forall_within_iff.mp calm
    obtain ⟨changed, each, order, keyed⟩ := shuffled.inner (s := s)
    -- Inside, each place keeps its line; what is left is the order of the entries.
    have lines : (p.inner s).mapM (Place.line? s t b) = changed.mapM (Place.line? s t b) := by
      refine option_mapM_congr (forall₂_imp_mem each ?_)
      intro q member q' other
      exact (ih q member (inside q member) q' other).symm
    have alike := shuffled.role (s := s)
    generalize role : p.role s = r at alike
    generalize role' : p'.role s = r' at alike
    cases alike with
    | same _ _ =>
      rw [Place.line?_eq, Place.line?_eq p, ← shuffled.slot, role, role', lines]
      rcases keyed with keyed | same
      · obtain ⟨c, fields, group, object⟩ := Place.role_keyed keyed
        cases role.symm.trans group
        refine congrArg _ (funext fun _ => joined_reordered order ?_)
        intro found run l left m right tie
        obtain ⟨q, one, made⟩ := mem_lines (lines.trans run) left
        obtain ⟨r, other, made'⟩ := mem_lines (lines.trans run) right
        exact here.ties c fields role object q one r other l m made made' tie
      · rw [same]
    | condition path column op => exact here.condition shuffled role role'
    | refusal e e' => rw [Place.line?_refused role, Place.line?_refused role']

theorem perm_two_in_front {α : Type} {a d : α} {xs : List α} (left : a ∈ xs) (right : d ∈ xs)
    (apart : a ≠ d) : ∃ rest, xs.Perm (a :: d :: rest) := by
  classical
  have second : d ∈ xs.erase a := (List.mem_erase_of_ne apart.symm).mpr right
  exact ⟨_, (List.perm_cons_erase left).trans ((List.perm_cons_erase second).cons a)⟩

section Written

variable {p : Place} {k : Line} (written : p.line? s t b = some k)
include written

theorem Place.role_kept {p' : Place} (some_inside : p.inner s ≠ []) (shuffled : p.Shuffled p') :
    p'.role s = p.role s := by
  have alike := shuffled.role (s := s)
  generalize role : p.role s = r at alike
  generalize p'.role s = r' at alike
  cases alike with
  | same _ _ => rfl
  | condition path column op => exact absurd (Place.inner_condition role) some_inside
  | refusal e e' => cases (Place.line?_refused role).symm.trans written

variable (indifferent : ∀ p', p.Shuffled p' → p'.line? s t b = p.line? s t b)
include indifferent

theorem Place.lines_kept {v : Json} {places : List Place} (some_inside : p.inner s ≠ [])
    (shuffled : p.value.Shuffled v) (opened : (p.slot.opening s).inner v = places) :
    ∃ lines, places.mapM (Place.line? s t b) = some lines ∧
      (p.role s).line? s t b lines = some k := by
  have whole : p.Shuffled ⟨p.slot, v⟩ := ⟨rfl, shuffled⟩
  obtain ⟨-, lines, run, made⟩ := Place.line?_eq_some.mp ((indifferent _ whole).trans written)
  rw [Place.role_kept written some_inside whole] at made
  rw [← opened]
  exact ⟨lines, run, made⟩

theorem Place.indifferent_inside {q : Place} (inside : q ∈ p.inner s) :
    (∃ l, q.line? s t b = some l) ∧
      ∀ q', q.Shuffled q' → q'.line? s t b = q.line? s t b := by
  obtain ⟨before, after, split⟩ := List.append_of_mem inside
  have some_inside : p.inner s ≠ [] := List.ne_nil_of_mem inside
  have compound : ∀ c, p.role s ≠ .condition c := fun c role =>
    some_inside (Place.inner_condition role)
  obtain ⟨lines, run, made⟩ := Place.lines_kept written indifferent some_inside (.refl _) split
  obtain ⟨front, l, back, first, here, rest, rfl⟩ := option_mapM_around.mp run
  refine ⟨⟨l, here⟩, ?_⟩
  intro q' shuffled
  -- A change of one place inside is a change of the whole value, and may not show there. The line
  -- takes the same place in its group, as its rank is kept, so what stands around it cancels.
  have ranks := Place.rank_shuffled (s := s) (t := t) (b := b) q q' shuffled
  rw [here] at ranks
  obtain ⟨m, there, tie⟩ := Option.map_eq_some_iff.mp ranks.symm
  obtain ⟨v, around, split'⟩ := Opening.inner_replaced split shuffled
  obtain ⟨lines', run', made'⟩ := Place.lines_kept written indifferent some_inside around split'
  have same : lines' = front ++ m :: back :=
    Option.some.inj (run'.symm.trans (option_mapM_around.mpr ⟨_, _, _, first, there, rest, rfl⟩))
  rw [same] at made'
  rw [here, there, Role.line?_replaced compound tie.symm made made']

theorem Place.ties_of_indifferent {c : Connective} {fields : List (String × Json)}
    (role : p.role s = .group c) (object : p.value = .obj fields) {q r : Place}
    (left : q ∈ p.inner s) (right : r ∈ p.inner s) {l m : Line} (one : q.line? s t b = some l)
    (other : r.line? s t b = some m) (tie : l.rank = m.rank) : Line.Trade c l m := by
  by_cases same : q = r
  · subst same
    cases one.symm.trans other
    rfl
  · have keyed := Place.keyed_of_group role object
    have some_inside : p.inner s ≠ [] := List.ne_nil_of_mem left
    -- The two entries may be the first ones of the object, in either order.
    obtain ⟨rest, order⟩ := perm_two_in_front left right same
    have swapped := order.trans (List.Perm.swap r q rest)
    obtain ⟨v, shuffled, opened⟩ := Opening.inner_reordered keyed order
    obtain ⟨v', shuffled', opened'⟩ := Opening.inner_reordered keyed swapped
    obtain ⟨lines, run, made⟩ := Place.lines_kept written indifferent some_inside shuffled opened
    obtain ⟨lines', run', made'⟩ :=
      Place.lines_kept written indifferent some_inside shuffled' opened'
    cases option_mapM_eq_some.mp run with
    | cons first more =>
      cases more with
      | cons second others =>
        cases one.symm.trans first
        cases other.symm.trans second
        cases run'.symm.trans (option_mapM_eq_some.mpr (.cons other (.cons one others)))
        rw [role] at made made'
        exact Line.joined_trade tie (made.trans made'.symm)

/-- A text in the operand shows, so it cannot depend on the order of keys. -/
theorem Place.spot_kept {c : Condition} (role : p.role s = .condition c)
    (looks : c.operator ≠ .isNull) {v : Json} (shuffled : p.value.Shuffled v)
    (spot : Operand.Spot) {x x' : String} (here : Operand.ofPayload p.value = spot.put x)
    (there : Operand.ofPayload v = spot.put x') : x = x' := by
  have whole : p.Shuffled ⟨p.slot, v⟩ := ⟨rfl, shuffled⟩
  have written' := (indifferent _ whole).trans written
  have alike := whole.role (s := s)
  rw [role] at alike
  generalize role' : Place.role s ⟨p.slot, v⟩ = r' at alike
  cases alike with
  | same _ kept =>
    rcases kept with kept | compound
    · cases kept
      exact Operand.Spot.put_injective (here.symm.trans there)
    · exact absurd rfl (compound c)
  | condition path column op =>
    rw [Place.line?_condition role] at written
    rw [Place.line?_condition role'] at written'
    obtain ⟨_, -, line⟩ := Option.bind_eq_some_iff.mp written
    obtain ⟨_, -, line'⟩ := Option.bind_eq_some_iff.mp written'
    obtain ⟨l, made, text⟩ := leaf_line?_eq_some line
    obtain ⟨l', made', text'⟩ := leaf_line?_eq_some line'
    rw [here] at made
    rw [there] at made'
    exact Condition.leaf_shows looks made made' (text.trans text'.symm)

theorem Place.item_kept {c : Condition} (role : p.role s = .condition c)
    (looks : c.operator ≠ .isNull) {items : List Json} (listed : p.value = .arr items)
    {item item' : Json} (member : item ∈ items) (shuffled : item.Shuffled item') :
    Operand.ofPayload item' = Operand.ofPayload item := by
  cases shuffled with
  | refl => rfl
  | @arr nested nested' each =>
    rw [Place.line?_condition role] at written
    obtain ⟨_, -, line⟩ := Option.bind_eq_some_iff.mp written
    obtain ⟨l, made, -⟩ := leaf_line?_eq_some line
    have among : Operand.list (Operand.ofPayloads nested) ∈ items.map Operand.ofPayload :=
      List.mem_map_of_mem member
    obtain ⟨path, column, op, operand⟩ := c
    cases Place.condition_listed role listed
    exact absurd among (Condition.leaf_flat looks made)
  | @obj fields changed fields' keys values order =>
    obtain ⟨front, back, rfl⟩ := List.append_of_mem member
    refine congrArg Operand.text (Eq.symm ?_)
    have reordered : p.value.Shuffled (.arr (front ++ .obj fields' :: back)) := by
      rw [listed]
      exact .replaced_item (.obj keys values order) front back
    refine Place.spot_kept written indifferent role looks reordered
      (.listed (front.map Operand.ofPayload) (back.map Operand.ofPayload)) ?_ ?_
    · simp [listed, Operand.ofPayload, Operand.ofPayloads_eq_map, Operand.Spot.put]
    · simp [Operand.ofPayload, Operand.ofPayloads_eq_map, Operand.Spot.put]

theorem Place.operand_kept {c : Condition} (role : p.role s = .condition c)
    (looks : c.operator ≠ .isNull) {v : Json} (shuffled : p.value.Shuffled v) :
    Operand.ofPayload v = Operand.ofPayload p.value := by
  generalize value : p.value = w at shuffled
  cases shuffled with
  | refl => rfl
  | @arr items items' each =>
    have same : List.Forall₂ (fun item item' => Operand.ofPayload item = Operand.ofPayload item')
        items items' := forall₂_imp_mem each fun item member item' other =>
      (Place.item_kept written indifferent role looks value member other).symm
    simp only [Operand.ofPayload, Operand.ofPayloads_eq_map, map_eq_map_iff_forall₂.mpr same]
  | @obj fields changed fields' keys values order =>
    refine congrArg Operand.text (Eq.symm ?_)
    have reordered : p.value.Shuffled (.obj fields') := by
      rw [value]
      exact .obj keys values order
    refine Place.spot_kept written indifferent role looks reordered .alone ?_ rfl
    rw [value]
    rfl

end Written

theorem Place.calm_of_indifferent (p : Place) {k : Line} : p.line? s t b = some k →
    (∀ p', p.Shuffled p' → p'.line? s t b = p.line? s t b) →
      ∀ q, Within s p q → q.Calm s t b := by
  induction p using Place.induct s generalizing k with
  | step p ih =>
    intro written indifferent
    refine forall_within_iff.mpr ⟨⟨?_, ?_⟩, ?_⟩
    · intro c fields role object q left r right l m one other tie
      exact Place.ties_of_indifferent written indifferent role object left right one other tie
    · intro c role
      by_cases null : c.operator = .isNull
      · exact Or.inl null
      · exact Or.inr fun v => Place.operand_kept written indifferent role null
    · intro q inside
      obtain ⟨⟨l, here⟩, below⟩ := Place.indifferent_inside written indifferent inside
      exact ih q inside here below

end Calm

def payloadText (s : Schema) (t : Table) (b : Bindings) (value : Json) : Except Error String :=
  ofPayload s t value >>= text s t b

section Payload

variable {s : Schema} {t : Table} {b : Bindings}

theorem payloadText_eq (value : Json) : (payloadText s t b value).toOption =
    ((Place.root t value).line? s t b).map Line.text := by
  rw [payloadText, toOption_bind, Place.line?, Option.map_bind]
  refine congrArg _ (funext fun f => ?_)
  rw [Function.comp_apply, Filter.line?, Option.map_map]
  exact Option.map_id'.symm

theorem payloadText_isOk (value : Json) : (payloadText s t b value).isOk =
    (((Place.root t value).line? s t b).map Line.rank).isSome := by
  rw [← isSome_toOption, payloadText_eq, Option.isSome_map, Option.isSome_map]

theorem root_shuffled {value other : Json} (shuffled : value.Shuffled other) :
    (Place.root t value).Shuffled (.root t other) :=
  ⟨rfl, shuffled⟩

theorem payloadText_isOk_shuffled {value other : Json} (shuffled : value.Shuffled other) :
    (payloadText s t b other).isOk = (payloadText s t b value).isOk := by
  rw [payloadText_isOk, payloadText_isOk, Place.rank_shuffled _ _ (root_shuffled shuffled)]

theorem root_line?_eq {value other : Json} (shuffled : value.Shuffled other)
    (same : (payloadText s t b other).toOption = (payloadText s t b value).toOption) :
    (Place.root t other).line? s t b = (Place.root t value).line? s t b := by
  have ranks := Place.rank_shuffled (s := s) (b := b) (t := t) _ _ (root_shuffled (t := t) shuffled)
  rw [payloadText_eq, payloadText_eq] at same
  cases one : (Place.root t value).line? s t b with
  | none =>
    rw [one] at ranks
    exact Option.map_eq_none_iff.mp ranks.symm
  | some l =>
    rw [one] at ranks same
    obtain ⟨m, other, rank⟩ := Option.map_eq_some_iff.mp ranks.symm
    rw [other] at same ⊢
    have text := Option.some.inj same
    cases l
    cases m
    cases rank
    cases text
    rfl

end Payload

end Filter

/-- A JSON filter with its keys in another order is accepted and written exactly if the filter
itself is. All orders have one text exactly if each place of the filter is calm. -/
theorem key_order_hidden_iff (s : Schema) (t : Table) (b : Bindings) (value : Json) :
    (∀ other, value.Shuffled other → (Filter.payloadText s t b other).isOk =
      (Filter.payloadText s t b value).isOk) ∧
    ((∀ other, value.Shuffled other → (Filter.payloadText s t b other).toOption =
        (Filter.payloadText s t b value).toOption) ↔
      (Filter.payloadText s t b value).isOk = false ∨
        ∀ q, Filter.Place.Within s (.root t value) q → q.Calm s t b) := by
  refine ⟨fun other => Filter.payloadText_isOk_shuffled, ?_⟩
  constructor
  · intro hidden
    cases written : (Filter.Place.root t value).line? s t b with
    | none =>
      left
      rw [Filter.payloadText_isOk, written]
      rfl
    | some k =>
      right
      refine Filter.Place.calm_of_indifferent _ written ?_
      rintro ⟨slot, other⟩ ⟨rfl, shuffled⟩
      exact Filter.root_line?_eq shuffled (hidden other shuffled)
  · rintro (refused | calm) other shuffled
    · have refused' := (Filter.payloadText_isOk_shuffled shuffled).trans refused
      rw [Outcome.toOption_refused refused, Outcome.toOption_refused refused']
    · rw [Filter.payloadText_eq, Filter.payloadText_eq,
        Filter.Place.line?_of_calm _ calm _ (Filter.root_shuffled shuffled)]

theorem Filter.text_tied {s : Schema} {t : Table} {b : Bindings} {c d : Condition} {x y : Leaf}
    (first : c.leaf s t = .ok x) (second : d.leaf s t = .ok y)
    (tie : (Filter.leaf c).rank = (Filter.leaf d).rank) :
    (Filter.all [.leaf c, .leaf d]).text s t b =
      .ok ("(" ++ (x.sql.fill b ++ " AND " ++ y.sql.fill b) ++ ")") := by
  have stop : rankLe Filter.rank (.leaf c) (.leaf d) = true := by simp [rankLe, tie]
  have ordered : Filter.canonicalOrder [.leaf c, .leaf d] = [.leaf c, .leaf d] := by
    simp [Filter.canonicalOrder_eq, sortBy, insertSorted, stop]
  have group := Filter.text_group (s := s) (t := t) (b := b) .and
    (List.cons_ne_nil (Filter.leaf c) [.leaf d])
  rw [ordered, List.mapM_cons, List.mapM_cons, Filter.text_leaf, Filter.text_leaf, first,
    second] at group
  refine group.trans (congrArg Except.ok ?_)
  simp [Connective.word]

def between (first second : String × Json) : Json := .obj [("id", .obj [first, second])]

/-- Two comparisons of one column have one rank, so they are written as they came. -/
theorem between_shows_order : ∃ s t, Schema.ofCatalog quizCatalog {} = .ok s ∧
    s.table "humans" = .ok t ∧
    (between ("gt", .int 3) ("lt", .int 9)).Shuffled (between ("lt", .int 9) ("gt", .int 3)) ∧
    Filter.payloadText s t {} (between ("gt", .int 3) ("lt", .int 9)) =
      .ok "(((\"humans\".\"id\") > 3) AND ((\"humans\".\"id\") < 9))" ∧
    Filter.payloadText s t {} (between ("lt", .int 9) ("gt", .int 3)) =
      .ok "(((\"humans\".\"id\") < 9) AND ((\"humans\".\"id\") > 3))" := by
  have made : (Schema.ofCatalog quizCatalog {} >>= fun s => s.table "humans" >>= fun t =>
      (⟨[], "id", .greaterThan, .int 3⟩ : Condition).leaf s t >>= fun lower =>
      (⟨[], "id", .lesserThan, .int 9⟩ : Condition).leaf s t >>= fun upper =>
      .ok ((t.column? "id").isSome, lower.sql.fill {}, upper.sql.fill {})) =
        .ok (true, "((\"humans\".\"id\") > 3)", "((\"humans\".\"id\") < 9)") := by
    decide +kernel
  obtain ⟨s, built, made⟩ := Outcome.bind_eq_ok.mp made
  obtain ⟨t, found, made⟩ := Outcome.bind_eq_ok.mp made
  obtain ⟨lower, low, made⟩ := Outcome.bind_eq_ok.mp made
  obtain ⟨upper, high, made⟩ := Outcome.bind_eq_ok.mp made
  have values := Except.ok.inj made
  simp only [Prod.mk.injEq] at values
  obtain ⟨known, lowest, highest⟩ := values
  have meaning : Filter.KeyMeaning.of s t "id" = .column := by simp [Filter.KeyMeaning.of, known]
  have read (first second : String × Json) : Filter.ofPayload s t (between first second) =
      Filter.ofColumn [] "id" (.obj [first, second]) := by
    simp only [Filter.ofPayload, between, Filter.ofObject, Filter.ofFields,
      Filter.ofEntry_column s t [] 0 meaning]
    cases Filter.ofColumn [] "id" (.obj [first, second]) <;> rfl
  refine ⟨s, t, built, found, ?_, ?_, ?_⟩
  · exact .replaced (.reordered (.swap _ _ _)) "id" [] []
  · rw [Filter.payloadText, read]
    refine (Filter.text_tied low high rfl).trans ?_
    rw [lowest, highest]
    rfl
  · rw [Filter.payloadText, read]
    refine (Filter.text_tied high low rfl).trans ?_
    rw [lowest, highest]
    rfl

end Lateral
