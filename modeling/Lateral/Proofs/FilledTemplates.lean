import Lateral.Filter.Writer
import Lateral.Proofs.Outcome

/-!
What is written with the bindings at hand is a template filled in with them, value by value,
condition by condition and filter by filter. No writer looks at a value but to put it down.
-/

namespace Lateral

theorem Template.fill_piece {b : Bindings} (p : Piece) : fill b [p] = p.fill b := by
  simp [fill, String.join_cons]

theorem Template.fill_flatMap {α : Type} {b : Bindings} (f : α → Template) (xs : List α) :
    fill b (xs.flatMap f) = String.join (xs.map fun x => fill b (f x)) := by
  induction xs with
  | nil => rfl
  | cons x rest ih => rw [List.flatMap_cons, fill_append, ih, List.map_cons, String.join_cons]

theorem Bindings.typed_eq (b : Bindings) (name sqlType : String) :
    b.typed name sqlType = b.literal name ++ " :: " ++ sqlType := by
  unfold typed literal
  cases b.value? name with
  | some value => rfl
  | none =>
    have opening : "'\x7b\x7b" = "'" ++ "\x7b\x7b" := rfl
    have closing : "\x7d\x7d' :: " = "\x7d\x7d" ++ ("'" ++ " :: ") := rfl
    simp only [Sql.placeholder, mark, opening, closing, String.append_assoc]

namespace Argument

variable {b : Bindings} (a : Argument)

theorem write_eq_fill : a.write b = a.literal.fill b := by
  cases a with
  | fixed s => exact (Template.fill_text _).symm
  | «variable» name => exact (Template.fill_piece (.literal name)).symm

theorem writeTyped_eq_fill (sqlType : String) :
    a.writeTyped b sqlType = (a.typed sqlType).fill b := by
  rw [typed, Template.fill_append, ← write_eq_fill, Template.fill_text]
  cases a with
  | fixed s => exact String.append_assoc
  | «variable» name => rw [writeTyped, Bindings.typed_eq, write, String.append_assoc]

theorem writeInteger_eq_fill : a.writeInteger b = a.integer.fill b := by
  cases a with
  | fixed s =>
    simp only [writeInteger, integer, Sql.integer, Template.fill_append, Template.fill_text]
  | «variable» name =>
    simp only [writeInteger, integer, Sql.integer, Template.fill_append, Template.fill_text,
      Template.fill_piece, Piece.fill, Bindings.count]

end Argument

namespace Operand
open Outcome

variable {b : Bindings}

theorem scalarText?_eq (sqlType : String) (operand : Operand) :
    operand.scalarText? b sqlType = (operand.literal? sqlType).map (Template.fill b ·.sql) := by
  cases operand with
  | «variable» name =>
    exact congrArg some ((Argument.variable name).writeTyped_eq_fill sqlType)
  | bool value =>
    cases value with
    | true => exact congrArg some (Template.fill_text _).symm
    | false => exact congrArg some (Template.fill_text _).symm
  | list items => rfl
  | _ => exact congrArg some (Template.fill_text _).symm

theorem writeItems_eq (sqlType : String) (items : List Operand) :
    items.mapM (writeScalar b (elementType sqlType)) =
      List.map (Template.fill b ·.sql) <$> literals sqlType items := by
  rw [literals, ← mapM_map_result]
  refine mapM_congr fun item _ => ?_
  rw [writeScalar, scalarText?_eq]
  cases item.literal? (elementType sqlType) with
  | none => rfl
  | some value => rfl

theorem write_scalar {operand : Operand} (scalar : operand.isList = false) (sqlType : String)
    (asArray : Bool) : operand.write b sqlType asArray = operand.writeScalar b sqlType := by
  cases operand with
  | list items => cases scalar
  | _ => rfl

theorem comparand_scalar {operand : Operand} (scalar : operand.isList = false) (op : Operator)
    (sqlType : String) :
    operand.comparand op sqlType = match operand.literal? sqlType with
      | some value => .ok (if op.takesMany then .inParens value else .single value)
      | none => .error (.invalidFilter .nestedList) := by
  cases operand with
  | list items => cases scalar
  | _ => rfl

theorem write_eq_comparand (op : Operator) (sqlType : String) (operand : Operand) :
    (fun value => if op.takesMany && !operand.isList then "(" ++ value ++ ")" else value) <$>
        operand.write b sqlType op.takesArray =
      (Template.fill b ·.sql) <$> operand.comparand op sqlType := by
  cases scalar : operand.isList with
  | true =>
    cases operand with
    | list items =>
      simp only [write, comparand, Bool.not_true, Bool.and_false, Bool.false_eq_true, if_false,
        writeItems_eq]
      cases literals sqlType items with
      | error e => cases op.takesArray <;> rfl
      | ok values =>
        have inner : String.intercalate ", " (values.map (Template.fill b ·.sql)) =
            Template.fill b (Template.join ", " (values.map Literal.sql)) := by
          rw [Template.fill_join, List.map_map]
          rfl
        cases op.takesArray with
        | true =>
          refine congrArg Except.ok ?_
          simp only [Comparand.sql, Template.fill_append, Template.fill_text, inner, if_true]
        | false =>
          refine congrArg Except.ok ?_
          simp only [Comparand.sql, Template.fill_append, Template.fill_text, inner,
            Bool.false_eq_true, if_false]
    | _ => cases scalar
  | false =>
    rw [write_scalar scalar, comparand_scalar scalar, writeScalar, scalarText?_eq]
    cases operand.literal? sqlType with
    | none => rfl
    | some value =>
      refine congrArg Except.ok ?_
      cases op.takesMany with
      | true => simp [Comparand.sql, Template.fill_append, Template.fill_text, String.append_assoc]
      | false => rfl

end Operand

open Outcome in
theorem Hop.along_ne_nil {s : Schema} {t last : Table} {name : String} {path : List String}
    {hops : List Hop} (made : Hop.along s t (name :: path) = .ok (hops, last)) : hops ≠ [] := by
  simp only [Hop.along, bind_eq_ok, pure_eq_ok] at made
  obtain ⟨first, -, more, -, whole⟩ := made
  cases whole
  simp

theorem Leaf.fill_hops {b : Bindings} (l : Leaf) (some_hop : l.hops ≠ []) :
    Template.fill b l.sql =
      String.intercalate " AND " (l.hops.map Hop.sql) ++ " AND (" ++
        Template.fill b l.predicate.sql ++ ")" ++
        String.ofList (List.replicate l.hops.length ')') := by
  unfold Leaf.sql
  split
  · contradiction
  · simp only [Template.fill_append, Template.fill_text]

namespace Condition
open Outcome

variable {b : Bindings} {s : Schema}

theorem writeWords_eq (operand : Operand) :
    writeWords b operand = Argument.write b <$> searchWords operand := by
  cases operand with
  | _ => rfl

theorem writeEmptyList_eq (column : Column) (op : Operator) :
    writeEmptyList column op = (Template.fill b ·.sql) <$> emptyListPredicate op column := by
  cases op with
  | isIn | notIn => exact congrArg Except.ok (Template.fill_text _).symm
  | _ => rfl

theorem writeComparison_eq (t : Table) (column : Column) (op : Operator) (operand : Operand) :
    writeComparison b t column op operand = (Template.fill b ·.sql) <$> (do
      return Predicate.compare ⟨t.name, column.name⟩ op
        (← operand.comparand op column.sqlType)) := by
  have value := operand.write_eq_comparand op column.sqlType (b := b)
  unfold writeComparison
  cases made : operand.comparand op column.sqlType with
  | error e =>
    rw [made] at value
    rw [map_eq_error.mp value]
    rfl
  | ok comparand =>
    rw [made] at value
    obtain ⟨text, run, same⟩ := map_eq_ok.mp value
    rw [run]
    refine congrArg Except.ok ?_
    simp only [Predicate.sql, Template.fill_append, Template.fill_text, ← same]

theorem writeOperand_eq (t : Table) (column : Column) (op : Operator) (operand : Operand) :
    (match operand with
      | .list [] => writeEmptyList column op
      | operand => writeComparison b t column op operand) =
    (Template.fill b ·.sql) <$> (match operand with
      | .list [] => emptyListPredicate op column
      | operand => do
        return .compare ⟨t.name, column.name⟩ op (← operand.comparand op column.sqlType)) := by
  split
  · exact writeEmptyList_eq column op
  · exact writeComparison_eq t column op operand

theorem write_eq_fill (t : Table) (c : Condition) :
    c.write b s t = (Template.fill b ·.sql) <$> c.predicate s t := by
  unfold write predicate
  cases c.operator with
  | equalsId =>
    cases t.primary c.column with
    | error e => rfl
    | ok key => exact writeComparison_eq t key .equalsId c.operand
  | textSearch =>
    cases t.searchColumn with
    | error e => rfl
    | ok column =>
      change (writeWords b c.operand >>= _) = _ <$> (searchWords c.operand >>= _)
      rw [writeWords_eq]
      cases searchWords c.operand with
      | error e => rfl
      | ok words =>
        refine congrArg Except.ok ?_
        simp only [Predicate.sql, Template.fill_append, Template.fill_text, Argument.write_eq_fill]
  | isNull =>
    cases t.column c.column with
    | error e => rfl
    | ok column =>
      refine congrArg Except.ok ?_
      simp only [Predicate.sql, Template.fill_append, Template.fill_text]
      cases c.operand with
      | bool value => cases value <;> rfl
      | _ => rfl
  | _ =>
    cases t.column c.column with
    | error e => rfl
    | ok column => exact writeOperand_eq t column _ c.operand

theorem writeLeaf_eq_fill (t : Table) (c : Condition) :
    (if c.path.isEmpty then c.write b s t else c.writeNested b s t) =
      (Template.fill b ·.sql) <$> c.leaf s t := by
  unfold leaf writeNested
  cases path : c.path with
  | nil =>
    rw [List.isEmpty_nil, if_pos rfl, write_eq_fill]
    change _ = _ <$> (c.predicate s t >>= fun p => pure (Leaf.mk [] p))
    cases c.predicate s t with
    | error e => rfl
    | ok p => rfl
  | cons name rest =>
    rw [List.isEmpty_cons, if_neg Bool.false_ne_true]
    cases along : Hop.along s t (name :: rest) with
    | error e => rfl
    | ok found =>
      obtain ⟨hops, last⟩ := found
      have leads : hops ≠ [] := Hop.along_ne_nil along
      change (c.write b s last >>= _) = _ <$> (c.predicate s last >>= _)
      rw [write_eq_fill]
      cases c.predicate s last with
      | error e => rfl
      | ok p =>
        exact congrArg Except.ok (Leaf.fill_hops ⟨hops, p⟩ leads).symm

end Condition

namespace Filter
open Outcome

section Scripts

variable {τ σ : Type}

/-- A script that puts down the image of what another one does. -/
structure Script.Image (v : Script σ) (w : Script τ) (g : τ → σ) : Prop where
  opening : v.opening = g w.opening
  closing : v.closing = g w.closing
  and : v.and = g w.and
  or : v.or = g w.or
  not : v.not = g w.not
  truth : ∀ value, v.truth value = g (w.truth value)
  leaf : ∀ c, v.leaf c = g <$> w.leaf c

def Frame.map (g : τ → σ) : Frame τ → Frame σ
  | .piece t => .piece (g t)
  | .part f => .part f

theorem separated_map (g : τ → σ) (separator : τ) (parts : List Filter) :
    separated (g separator) parts = (separated separator parts).map (Frame.map g) := by
  induction parts with
  | nil => rfl
  | cons f rest ih =>
    cases rest with
    | nil => rfl
    | cons second more =>
      simp only [separated, List.map_cons, Frame.map]
      rw [ih]

variable {v : Script σ} {w : Script τ} {g : τ → σ}

theorem groupFrames_map (image : v.Image w g) (separator : τ) (empty : Bool)
    (parts : List Filter) :
    groupFrames v (g separator) empty parts =
      (groupFrames w separator empty parts).map (Frame.map g) := by
  unfold groupFrames
  split
  · rw [image.truth]
    rfl
  · rw [image.opening, image.closing, separated_map]
    simp [Frame.map]

theorem drainWith_map (image : v.Image w g) (frames : List (Frame τ)) (written : List τ) :
    drainWith v (frames.map (Frame.map g)) (written.map g) =
      List.map g <$> drainWith w frames written := by
  induction frames, written using drainWith.induct w with
  | case1 written => simp [drainWith]
  | case2 written k rest ih => simpa [drainWith, Frame.map] using ih
  | case3 written parts rest ih =>
    rw [List.map_append, ← groupFrames_map image, ← image.and] at ih
    simpa [drainWith, Frame.map] using ih
  | case4 written parts rest ih =>
    rw [List.map_append, ← groupFrames_map image, ← image.or] at ih
    simpa [drainWith, Frame.map] using ih
  | case5 written part rest ih => simpa [drainWith, Frame.map, image.not] using ih
  | case6 written rest ih => simpa [drainWith, Frame.map, image.truth] using ih
  | case7 written c rest l run ih =>
    rw [List.map_cons, Frame.map, drainWith_leaf, drainWith_leaf, image.leaf, run]
    exact ih
  | case8 written c rest e run =>
    rw [List.map_cons, Frame.map, drainWith_leaf, drainWith_leaf, image.leaf, run]
    rfl

end Scripts

variable {b : Bindings} {s : Schema} {t : Table}

theorem textScript_image :
    (textScript b s t).Image (tokenScript s t) fun k => k.sql.fill b where
  opening := (Template.fill_text _).symm
  closing := (Template.fill_text _).symm
  and := (Template.fill_text _).symm
  or := (Template.fill_text _).symm
  not := (Template.fill_text _).symm
  truth _ := (Template.fill_text _).symm
  leaf c := by
    change (if c.path.isEmpty then _ else _) = _ <$> Token.leaf <$> c.leaf s t
    rw [Condition.writeLeaf_eq_fill, ← comp_map]
    rfl

/-- A filter is written as its template is filled in, or refused for the same reason. -/
theorem write_eq_fill (f : Filter) : f.write b s t = Template.fill b <$> f.sql s t := by
  have texts := drainWith_map (textScript_image (b := b) (s := s) (t := t)) [.part f] []
  unfold write sql tokens drain
  change (drainWith (textScript b s t) [.part f] [] >>= _) = _
  rw [show drainWith (textScript b s t) [.part f] [] = _ from texts]
  cases drainWith (tokenScript s t) [.part f] [] with
  | error e => rfl
  | ok made => exact congrArg Except.ok (Template.fill_flatMap Token.sql made).symm

end Filter

end Lateral
