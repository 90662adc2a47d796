import Lateral.Proofs.ShuffledOperands

/-!
JSON filters with their keys in another order. The places of such a filter are those of the filter
itself, entries of objects in another order, and stand for the same but for the order of keys in
operands. So such a filter is accepted, and written, exactly if the filter itself is, and where a
part of a group stands does not change.
-/

namespace Lateral.Filter
open Outcome

structure Place.Shuffled (p p' : Place) : Prop where
  slot : p.slot = p'.slot
  value : p.value.Shuffled p'.value

theorem Place.Shuffled.refl (p : Place) : p.Shuffled p := ⟨rfl, .refl p.value⟩

def Opening.Keyed : Opening → Json → Prop
  | .parts _ _, .obj _ => True
  | _, _ => False

section Opening

variable {o : Opening} {v : Json}

theorem entries_shuffled (field : String → Slot) {fields changed : List (String × Json)}
    (keys : fields.map Prod.fst = changed.map Prod.fst)
    (values : List.Forall₂ Json.Shuffled (fields.map Prod.snd) (changed.map Prod.snd)) :
    List.Forall₂ Place.Shuffled (fields.map fun e => ⟨field e.1, e.2⟩)
      (changed.map fun e => ⟨field e.1, e.2⟩) := by
  induction fields generalizing changed with
  | nil =>
    cases List.map_eq_nil_iff.mp keys.symm
    exact .nil
  | cons e rest ih =>
    obtain ⟨e', rest', rfl, key, keys⟩ := List.map_eq_cons_iff.mp keys.symm
    cases values with
    | cons value values => exact .cons ⟨congrArg field key.symm, value⟩ (ih keys.symm values)

theorem Opening.inner_shuffled {v' : Json} (o : Opening) (shuffled : v.Shuffled v') :
    ∃ changed, List.Forall₂ Place.Shuffled (o.inner v) changed ∧ changed.Perm (o.inner v') ∧
      (o.Keyed v ∨ changed = o.inner v') := by
  cases shuffled with
  | refl => exact ⟨_, List.forall₂_same.mpr fun p _ => .refl p, .refl _, Or.inr rfl⟩
  | @arr items items' each =>
    refine ⟨o.inner (.arr items'), ?_, .refl _, Or.inr rfl⟩
    match o with
    | .parts _ none => exact .nil
    | .parts _ (some item) =>
      exact List.forall₂_map_left_iff.mpr (List.forall₂_map_right_iff.mpr
        (each.imp fun _ _ value => ⟨rfl, value⟩))
    | .whole slot => exact .cons ⟨rfl, .arr each⟩ .nil
    | .closed => exact .nil
  | @obj fields changed fields' keys values order =>
    match o with
    | .parts field _ =>
      refine ⟨changed.map fun e => ⟨field e.1, e.2⟩, ?_, order.map _, Or.inl trivial⟩
      exact entries_shuffled field keys values
    | .whole slot =>
      exact ⟨[⟨slot, .obj fields'⟩], .cons ⟨rfl, .obj keys values order⟩ .nil, .refl _, Or.inr rfl⟩
    | .closed => exact ⟨[], .nil, .refl _, Or.inr rfl⟩

theorem Opening.inner_replaced {before after : List Place} {p p' : Place}
    (split : o.inner v = before ++ p :: after) (shuffled : p.Shuffled p') :
    ∃ v', v.Shuffled v' ∧ o.inner v' = before ++ p' :: after := by
  obtain ⟨slot, value⟩ := p
  obtain ⟨slot', value'⟩ := p'
  obtain ⟨rfl, shuffled⟩ := shuffled
  have some_inside : o.inner v ≠ [] := by simp [split]
  match o with
  | .parts field item =>
    cases v with
    | obj fields =>
      obtain ⟨front, rest, rfl, rfl, opened⟩ := List.map_eq_append_iff.mp split
      obtain ⟨e, back, rfl, same, rfl⟩ := List.map_eq_cons_iff.mp opened
      cases same
      exact ⟨_, .replaced shuffled e.1 front back, by simp [Opening.inner]⟩
    | arr items =>
      cases item with
      | none => exact absurd rfl some_inside
      | some item =>
        obtain ⟨front, rest, rfl, rfl, opened⟩ := List.map_eq_append_iff.mp split
        obtain ⟨first, back, rfl, same, rfl⟩ := List.map_eq_cons_iff.mp opened
        cases same
        exact ⟨_, .replaced_item shuffled front back, by simp [Opening.inner]⟩
    | _ => exact absurd rfl some_inside
  | .whole below =>
    rcases List.append_eq_singleton_iff.mp split.symm with ⟨rfl, same⟩ | ⟨-, none⟩
    · cases same
      exact ⟨value', shuffled, rfl⟩
    · cases none
  | .closed => exact absurd rfl some_inside

theorem Opening.inner_reordered {places : List Place} (keyed : o.Keyed v)
    (order : (o.inner v).Perm places) : ∃ v', v.Shuffled v' ∧ o.inner v' = places := by
  match o, v, keyed with
  | .parts field item, .obj fields, _ =>
    have opened : List.Forall₂ (fun p e => p = ⟨field e.1, e.2⟩)
        ((Opening.parts field item).inner (.obj fields)) fields := by
      exact List.forall₂_map_left_iff.mpr (List.forall₂_same.mpr fun e _ => rfl)
    obtain ⟨fields', opened', order'⟩ := List.perm_comp_forall₂ order.symm opened
    refine ⟨.obj fields', .reordered order'.symm, ?_⟩
    clear order order' opened
    induction opened' with
    | nil => rfl
    | cons first _ ih => exact congrArg₂ List.cons first.symm ih

end Opening

/-- Roles of places whose values differ in the order of keys. Operands may differ so, and a refusal
may be for another reason. -/
inductive Role.Alike (v v' : Json) : Role → Role → Prop where
  | same (role : Role) (kept : v = v' ∨ ∀ c, role ≠ .condition c) : Alike v v' role role
  | condition (path : List String) (column : String) (op : Operator) :
      Alike v v' (.condition ⟨path, column, op, Operand.ofPayload v⟩)
        (.condition ⟨path, column, op, Operand.ofPayload v'⟩)
  | refusal (e e' : Error) : Alike v v' (.refusal e) (.refusal e')

section Roles

variable {s : Schema} {p p' : Place}

theorem Place.Shuffled.role (shuffled : p.Shuffled p') :
    Role.Alike p.value p'.value (p.role s) (p'.role s) := by
  obtain ⟨slot, value⟩ := p
  obtain ⟨slot', value'⟩ := p'
  obtain ⟨rfl, shuffled⟩ := shuffled
  simp only [Place.role]
  cases shuffled with
  | refl => exact .same _ (Or.inl rfl)
  | arr each =>
    cases slot with
    | object u path depth => exact .refusal _ _
    | entry u path depth key =>
      simp only [Slot.role]
      cases KeyMeaning.of s u key with
      | column => exact .condition path key .isIn
      | _ => exact .same _ (Or.inr fun c same => Role.noConfusion same)
    | operator path column code =>
      simp only [Slot.role]
      cases Operator.ofCode? code with
      | some op => exact .condition path column op
      | none => exact .refusal _ _
  | obj keys values order =>
    cases slot with
    | object u path depth => exact .same _ (Or.inr fun c same => Role.noConfusion same)
    | entry u path depth key =>
      simp only [Slot.role]
      cases KeyMeaning.of s u key <;> exact .same _ (Or.inr fun c same => Role.noConfusion same)
    | operator path column code =>
      simp only [Slot.role]
      cases Operator.ofCode? code with
      | some op => exact .condition path column op
      | none => exact .refusal _ _

theorem Place.Shuffled.inner (shuffled : p.Shuffled p') :
    ∃ changed, List.Forall₂ Place.Shuffled (p.inner s) changed ∧ changed.Perm (p'.inner s) ∧
      ((p.slot.opening s).Keyed p.value ∨ changed = p'.inner s) := by
  rw [Place.inner, Place.inner, ← shuffled.slot]
  exact (p.slot.opening s).inner_shuffled shuffled.value

theorem Place.role_keyed (keyed : (p.slot.opening s).Keyed p.value) :
    ∃ c fields, p.role s = .group c ∧ p.value = .obj fields := by
  obtain ⟨slot, value⟩ := p
  cases value with
  | obj fields =>
    cases slot with
    | object u path depth => exact ⟨.and, fields, rfl, rfl⟩
    | entry u path depth key =>
      simp only [Slot.opening] at keyed
      simp only [Place.role, Slot.role]
      cases meaning : KeyMeaning.of s u key with
      | all => exact ⟨.and, fields, rfl, rfl⟩
      | any => exact ⟨.or, fields, rfl, rfl⟩
      | column => exact ⟨.and, fields, rfl, rfl⟩
      | not | related | unknown =>
        rw [meaning] at keyed
        cases keyed
    | operator path column code => cases keyed
  | _ => cases opening : slot.opening s <;> simp [opening, Opening.Keyed] at keyed

theorem Place.keyed_of_group {c : Connective} {fields : List (String × Json)}
    (role : p.role s = .group c) (object : p.value = .obj fields) :
    (p.slot.opening s).Keyed p.value := by
  obtain ⟨slot, value⟩ := p
  cases object
  cases slot with
  | object u path depth => trivial
  | entry u path depth key =>
    simp only [Place.role, Slot.role] at role
    simp only [Slot.opening]
    cases meaning : KeyMeaning.of s u key with
    | all | any | column => trivial
    | not | related | unknown =>
      rw [meaning] at role
      cases role
  | operator path column code =>
    simp only [Place.role, Slot.role] at role
    split at role <;> cases role

end Roles

section Ranks

variable {s : Schema} {t : Table} {b : Bindings}

theorem Role.Alike.map_rank {v v' : Json} {r r' : Role} (alike : Role.Alike v v' r r')
    (shuffled : v.Shuffled v') {lines lines' : List Line}
    (ranks : (lines.map Line.rank).Perm (lines'.map Line.rank)) :
    (r.line? s t b lines).map Line.rank = (r'.line? s t b lines').map Line.rank := by
  have joined (c : Connective) :
      (Line.joined c lines).map Line.rank = (Line.joined c lines').map Line.rank := by
    rw [Line.joined_rank, Line.joined_rank, Line.joinedRank_perm ranks]
  cases alike with
  | same _ _ =>
    cases r with
    | group c => exact joined c
    | negation =>
      have top := congrArg (Option.map fun _ => (⊤ : Rank)) (joined .and)
      simpa only [Role.line?, Option.map_map, Function.comp_def] using top
    | passage => exact joined .and
    | condition c => rfl
    | refusal e => rfl
  | condition path column op =>
    rw [Role.line?, Role.line?, leaf_map_rank, leaf_map_rank,
      Condition.leaf_alike (Operand.ofPayload_alike shuffled) path column op]
    rfl
  | refusal e e' => rfl

/-- The order of keys changes neither whether a place can be written nor its rank. -/
theorem Place.rank_shuffled (p : Place) : ∀ p', p.Shuffled p' →
    (p.line? s t b).map Line.rank = (p'.line? s t b).map Line.rank := by
  induction p using Place.induct s with
  | step p ih =>
    intro p' shuffled
    obtain ⟨changed, each, order, -⟩ := shuffled.inner (s := s)
    -- Inside, each place keeps its rank, so the ranks are at most in another order.
    have ranks : ((p.inner s).mapM (Place.line? s t b)).map (List.map Line.rank) =
        (changed.mapM (Place.line? s t b)).map (List.map Line.rank) := by
      rw [← option_mapM_map, ← option_mapM_map]
      exact option_mapM_congr (forall₂_imp_mem each ih)
    rw [Place.line?_eq, Place.line?_eq, ← shuffled.slot]
    cases p.slot.check with
    | error e => rfl
    | ok passed =>
      change Option.map _ (Option.bind _ _) = Option.map _ (Option.bind _ _)
      cases here : (p.inner s).mapM (Place.line? s t b) with
      | none =>
        rw [here] at ranks
        have refused := Option.map_eq_none_iff.mp ranks.symm
        rw [option_mapM_perm_none order refused]
        rfl
      | some lines =>
        rw [here] at ranks
        obtain ⟨between, run, same⟩ := Option.map_eq_some_iff.mp ranks.symm
        obtain ⟨lines', there, perm⟩ := option_mapM_perm order run
        rw [there]
        refine (shuffled.role (s := s)).map_rank shuffled.value ?_
        rw [← same]
        exact perm.map Line.rank

end Ranks

end Lateral.Filter
