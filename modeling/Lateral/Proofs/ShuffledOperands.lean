import Lateral.Proofs.FilterLines

/-!
Operands from JSON values with their keys in another order. Conditions accept them alike. Those of a
null test are not even looked at; every other condition shows in its text what it is compared with,
so an object there shows the order of its keys.
-/

namespace Lateral

/-- The same value but for the order of the keys in its objects. -/
inductive Json.Shuffled : Json → Json → Prop where
  | refl (value : Json) : Shuffled value value
  | arr {items items' : List Json} (each : List.Forall₂ Shuffled items items') :
      Shuffled (.arr items) (.arr items')
  | obj {fields changed fields' : List (String × Json)}
      (keys : fields.map Prod.fst = changed.map Prod.fst)
      (values : List.Forall₂ Shuffled (fields.map Prod.snd) (changed.map Prod.snd))
      (order : changed.Perm fields') : Shuffled (.obj fields) (.obj fields')

theorem Json.Shuffled.items_refl (items : List Json) : List.Forall₂ Shuffled items items :=
  List.forall₂_same.mpr fun item _ => .refl item

theorem Json.Shuffled.reordered {fields fields' : List (String × Json)}
    (order : fields.Perm fields') : Shuffled (.obj fields) (.obj fields') :=
  .obj rfl (items_refl _) order

theorem Json.Shuffled.replaced {value value' : Json} (shuffled : value.Shuffled value')
    (key : String) (front back : List (String × Json)) :
    Shuffled (.obj (front ++ (key, value) :: back)) (.obj (front ++ (key, value') :: back)) := by
  refine .obj (by simp) ?_ (.refl _)
  rw [List.map_append, List.map_append]
  exact List.rel_append (items_refl _) (.cons shuffled (items_refl _))

theorem Json.Shuffled.replaced_item {value value' : Json} (shuffled : value.Shuffled value')
    (front back : List Json) :
    Shuffled (.arr (front ++ value :: back)) (.arr (front ++ value' :: back)) :=
  .arr (List.rel_append (items_refl _) (.cons shuffled (items_refl _)))

structure Operand.Alike (o o' : Operand) : Prop where
  compared (op : Operator) (sqlType : String) :
    (o.comparand op sqlType).isOk = (o'.comparand op sqlType).isOk
  searched : (Condition.searchWords o).isOk = (Condition.searchWords o').isOk
  empty : o = .list [] ↔ o' = .list []

section Operands
open Outcome

theorem Operand.literal?_shuffled {v v' : Json} (shuffled : v.Shuffled v') (sqlType : String) :
    ((ofPayload v).literal? sqlType).isSome = ((ofPayload v').literal? sqlType).isSome := by
  cases shuffled with
  | refl => rfl
  | arr each => simp [ofPayload, literal?]
  | obj keys values order => simp [ofPayload, literal?]

theorem Operand.literals_shuffled {items items' : List Json}
    (each : List.Forall₂ Json.Shuffled items items') (sqlType : String) :
    (literals sqlType (ofPayloads items)).isOk = (literals sqlType (ofPayloads items')).isOk := by
  induction each with
  | nil => rfl
  | @cons v v' _ _ first _ ih =>
    have alike := literal?_shuffled first (elementType sqlType)
    simp only [literals, ofPayloads, List.mapM_cons] at ih ⊢
    refine isOk_bind ?_ fun _ _ _ _ => isOk_bind ih fun _ _ _ _ => rfl
    cases one : (ofPayload v).literal? (elementType sqlType) <;>
      cases other : (ofPayload v').literal? (elementType sqlType) <;>
      simp_all [Except.isOk, Except.toBool]

theorem Operand.ofPayload_alike {v v' : Json} (shuffled : v.Shuffled v') :
    (ofPayload v).Alike (ofPayload v') := by
  cases shuffled with
  | refl => exact ⟨fun _ _ => rfl, rfl, Iff.rfl⟩
  | @arr items items' each =>
    refine ⟨?_, rfl, ?_⟩
    · intro op sqlType
      have alike := literals_shuffled each sqlType
      simp only [ofPayload, comparand]
      split
      · exact isOk_bind alike fun _ _ _ _ => rfl
      · exact isOk_bind alike fun _ _ _ _ => rfl
    · cases each <;> simp [ofPayload, ofPayloads]
  | obj keys values order =>
    refine ⟨?_, rfl, ?_⟩
    · intro op sqlType
      rfl
    · simp [ofPayload]

theorem Condition.predicate_alike {s : Schema} {t : Table} {o o' : Operand} (alike : o.Alike o')
    (path : List String) (column : String) (op : Operator) :
    (predicate s t ⟨path, column, op, o⟩).isOk = (predicate s t ⟨path, column, op, o'⟩).isOk := by
  unfold predicate
  dsimp only
  split
  · refine isOk_bind rfl fun key key' found found' => ?_
    cases found.symm.trans found'
    exact isOk_bind (alike.compared _ _) fun _ _ _ _ => rfl
  · refine isOk_bind rfl fun column column' found found' => ?_
    exact isOk_bind alike.searched fun _ _ _ _ => rfl
  · exact isOk_bind rfl fun _ _ _ _ => rfl
  · refine isOk_bind rfl fun column column' found found' => ?_
    cases found.symm.trans found'
    by_cases empty : o = .list []
    · rw [empty, alike.empty.mp empty]
    · have some_item : o' ≠ .list [] := mt alike.empty.mpr empty
      split
      · exact absurd rfl empty
      · exact isOk_bind (alike.compared _ _) fun _ _ _ _ => rfl

theorem Condition.leaf_alike {s : Schema} {t : Table} {o o' : Operand} (alike : o.Alike o')
    (path : List String) (column : String) (op : Operator) :
    (leaf s t ⟨path, column, op, o⟩).isOk = (leaf s t ⟨path, column, op, o'⟩).isOk := by
  refine isOk_bind rfl fun made made' along along' => ?_
  cases along.symm.trans along'
  exact isOk_bind (predicate_alike alike path column op) fun _ _ _ _ => rfl

/-- A null test looks only for a refusal of null, which no object or list is. -/
theorem Condition.leaf_null_shuffled {s : Schema} {t : Table} {v v' : Json}
    (shuffled : v.Shuffled v') (path : List String) (column : String) :
    leaf s t ⟨path, column, .isNull, Operand.ofPayload v⟩ =
      leaf s t ⟨path, column, .isNull, Operand.ofPayload v'⟩ := by
  cases shuffled with
  | refl => rfl
  | arr each => rfl
  | obj keys values order => rfl

end Operands

inductive Operand.Spot where
  | alone
  | listed (front back : List Operand)

def Operand.Spot.put : Spot → String → Operand
  | .alone, x => .text x
  | .listed front back, x => .list (front ++ .text x :: back)

theorem Operand.Spot.put_injective {spot : Spot} {x x' : String} (same : spot.put x = spot.put x') :
    x = x' := by
  cases spot with
  | alone => exact Operand.text.inj same
  | listed front back => simpa [put] using same

section Shown
open Outcome

variable {b : Bindings} {spot : Operand.Spot} {x x' : String}

theorem Operand.literals_toOption (sqlType : String) (items : List Operand) :
    (literals sqlType items).toOption = items.mapM (literal? (elementType sqlType)) := by
  rw [literals, toOption_mapM]
  refine congrArg (fun f => items.mapM f) (funext fun item => ?_)
  cases item.literal? (elementType sqlType) <;> rfl

theorem Literal.list_shows {front back : List Literal} (separator : String)
    (same : Template.fill b (Template.join separator ((front ++ .text x :: back).map Literal.sql)) =
      Template.fill b (Template.join separator ((front ++ .text x' :: back).map Literal.sql))) :
    x = x' := by
  obtain ⟨left, right, around⟩ := Filter.intercalate_around separator
    ((front.map Literal.sql).map (Template.fill b)) ((back.map Literal.sql).map (Template.fill b))
  simp only [Template.fill_join, List.map_append, List.map_cons, around, Literal.sql,
    Template.fill_text] at same
  exact Text.quote_injective (Filter.eq_of_around same)

theorem Operand.comparand_list (op : Operator) (sqlType : String) (items : List Operand) :
    (Operand.list items).comparand op sqlType =
      (if op.takesArray then Comparand.array else Comparand.list) <$> literals sqlType items := by
  simp only [comparand]
  split <;> rfl

theorem Operand.literals_around {sqlType : String} {front back : List Operand} {ls : List Literal}
    (run : literals sqlType (front ++ .text x :: back) = .ok ls) :
    ∃ front' back', front.mapM (literal? (elementType sqlType)) = some front' ∧
      back.mapM (literal? (elementType sqlType)) = some back' ∧
      ls = front' ++ .text x :: back' := by
  have found := literals_toOption sqlType (front ++ .text x :: back)
  rw [run] at found
  obtain ⟨front', _, back', first, here, rest, rfl⟩ := option_mapM_around.mp found.symm
  cases here
  exact ⟨front', back', first, rest, rfl⟩

theorem Operand.comparand_shows {op : Operator} {sqlType : String} {c c' : Comparand}
    (one : (spot.put x).comparand op sqlType = .ok c)
    (other : (spot.put x').comparand op sqlType = .ok c')
    (same : c.sql.fill b = c'.sql.fill b) : x = x' := by
  cases spot with
  | alone =>
    cases one
    cases other
    by_cases many : op.takesMany = true
    · simp only [if_pos many, Comparand.sql, Literal.sql, Template.fill_append,
        Template.fill_text] at same
      exact Text.quote_injective (Filter.eq_of_around same)
    · simp only [if_neg many, Comparand.sql, Literal.sql, Template.fill_text] at same
      exact Text.quote_injective same
  | listed front back =>
    rw [Spot.put, comparand_list] at one other
    obtain ⟨_, run, rfl⟩ := map_eq_ok.mp one
    obtain ⟨_, run', rfl⟩ := map_eq_ok.mp other
    obtain ⟨front', back', first, rest, rfl⟩ := literals_around run
    obtain ⟨_, _, first', rest', rfl⟩ := literals_around run'
    cases first.symm.trans first'
    cases rest.symm.trans rest'
    by_cases array : op.takesArray = true
    · simp only [if_pos array, Comparand.sql, Template.fill_append] at same
      exact Literal.list_shows ", " (Filter.eq_of_around same)
    · simp only [if_neg array, Comparand.sql, Template.fill_append] at same
      exact Literal.list_shows ", " (Filter.eq_of_around same)

theorem Predicate.compare_shows {column : Sql.ColumnRef} {op : Operator} {c c' : Comparand}
    (same : (Predicate.compare column op c).sql.fill b =
      (Predicate.compare column op c').sql.fill b) : c.sql.fill b = c'.sql.fill b := by
  simp only [Predicate.sql, Template.fill_append] at same
  exact Filter.eq_of_around same

theorem Condition.predicate_shows {s : Schema} {t : Table} {path : List String} {column : String}
    {op : Operator} (looks : op ≠ .isNull) {p p' : Predicate}
    (one : predicate s t ⟨path, column, op, spot.put x⟩ = .ok p)
    (other : predicate s t ⟨path, column, op, spot.put x'⟩ = .ok p')
    (same : p.sql.fill b = p'.sql.fill b) : x = x' := by
  have listed (y : String) : spot.put y ≠ .list [] := by
    cases spot <;> simp [Operand.Spot.put]
  unfold predicate at one other
  dsimp only at one other
  -- Whichever column is looked up, it is the same for both, and the operand comes after it.
  split at one
  · obtain ⟨key, found, one⟩ := bind_eq_ok.mp one
    obtain ⟨key', found', other⟩ := bind_eq_ok.mp other
    cases found.symm.trans found'
    obtain ⟨c, made, one⟩ := bind_eq_ok.mp one
    obtain ⟨c', made', other⟩ := bind_eq_ok.mp other
    cases one
    cases other
    exact Operand.comparand_shows made made' (Predicate.compare_shows same)
  · obtain ⟨key, found, one⟩ := bind_eq_ok.mp one
    obtain ⟨key', found', other⟩ := bind_eq_ok.mp other
    cases found.symm.trans found'
    cases spot with
    | alone =>
      cases one
      cases other
      simp only [Predicate.sql, Argument.literal, Template.fill_append, Template.fill_text] at same
      exact Text.quote_injective (Filter.eq_of_around same)
    | listed front back => cases one
  · exact absurd rfl looks
  · split at other
    · contradiction
    · contradiction
    · contradiction
    · obtain ⟨key, found, one⟩ := bind_eq_ok.mp one
      obtain ⟨key', found', other⟩ := bind_eq_ok.mp other
      cases found.symm.trans found'
      split at one
      · rename_i empty
        exact absurd empty (listed x)
      · split at other
        · rename_i empty
          exact absurd empty (listed x')
        · obtain ⟨c, made, one⟩ := bind_eq_ok.mp one
          obtain ⟨c', made', other⟩ := bind_eq_ok.mp other
          cases one
          cases other
          exact Operand.comparand_shows made made' (Predicate.compare_shows same)

theorem Condition.leaf_shows {s : Schema} {t : Table} {path : List String} {column : String}
    {op : Operator} (looks : op ≠ .isNull) {l l' : Leaf}
    (one : leaf s t ⟨path, column, op, spot.put x⟩ = .ok l)
    (other : leaf s t ⟨path, column, op, spot.put x'⟩ = .ok l')
    (same : l.sql.fill b = l'.sql.fill b) : x = x' := by
  obtain ⟨⟨hops, last⟩, along, one⟩ := bind_eq_ok.mp one
  obtain ⟨⟨hops', last'⟩, along', other⟩ := bind_eq_ok.mp other
  cases along.symm.trans along'
  obtain ⟨p, made, one⟩ := bind_eq_ok.mp one
  obtain ⟨p', made', other⟩ := bind_eq_ok.mp other
  cases one
  cases other
  refine predicate_shows (b := b) looks made made' ?_
  cases hops with
  | nil => exact same
  | cons hop rest =>
    simp only [Leaf.sql, Template.fill_append] at same
    exact Filter.eq_of_around ((String.append_left_inj _).mp same)

theorem Operand.comparand_flat {op : Operator} {sqlType : String} {items nested : List Operand}
    {c : Comparand} (made : (Operand.list items).comparand op sqlType = .ok c) :
    Operand.list nested ∉ items := by
  intro member
  rw [comparand_list] at made
  obtain ⟨ls, run, -⟩ := map_eq_ok.mp made
  have found := literals_toOption sqlType items
  rw [run] at found
  obtain ⟨_, -, here⟩ := forall₂_mem_left (option_mapM_eq_some.mp found.symm) member
  cases here

theorem Condition.leaf_flat {s : Schema} {t : Table} {path : List String} {column : String}
    {op : Operator} (looks : op ≠ .isNull) {items nested : List Operand} {l : Leaf}
    (made : leaf s t ⟨path, column, op, .list items⟩ = .ok l) : Operand.list nested ∉ items := by
  obtain ⟨⟨hops, last⟩, -, made⟩ := bind_eq_ok.mp made
  obtain ⟨p, made, -⟩ := bind_eq_ok.mp made
  unfold predicate at made
  dsimp only at made
  split at made
  · obtain ⟨key, -, made⟩ := bind_eq_ok.mp made
    obtain ⟨c, made, -⟩ := bind_eq_ok.mp made
    exact Operand.comparand_flat made
  · obtain ⟨key, -, made⟩ := bind_eq_ok.mp made
    cases made
  · exact absurd rfl looks
  · obtain ⟨key, -, made⟩ := bind_eq_ok.mp made
    split at made
    · rename_i empty
      cases empty
      exact List.not_mem_nil
    · obtain ⟨c, made, -⟩ := bind_eq_ok.mp made
      exact Operand.comparand_flat made

end Shown

end Lateral
