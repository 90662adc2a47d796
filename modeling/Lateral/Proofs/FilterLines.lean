import Lateral.Proofs.FilterTexts

/-!
Lines: the text of a part of a group, with its rank. The line of a place is put together from the
lines of the places inside it. A group sorts the lines of its parts, so their order shows only where
lines of equal rank may not change places.
-/

namespace Lateral.Filter
open Outcome

section Texts

variable (separator : String)

theorem eq_of_around {left right x y : String} (same : left ++ x ++ right = left ++ y ++ right) :
    x = y :=
  (String.append_right_inj left).mp ((String.append_left_inj right).mp same)

theorem intercalate_around (before after : List String) : ∃ left right, ∀ x,
    String.intercalate separator (before ++ x :: after) = left ++ x ++ right := by
  have behind : ∃ right, ∀ x, String.intercalate separator (x :: after) = x ++ right := by
    cases after with
    | nil => exact ⟨"", fun x => by simp⟩
    | cons y rest =>
      exact ⟨separator ++ String.intercalate separator (y :: rest),
        fun x => by simp [String.append_assoc]⟩
  obtain ⟨right, behind⟩ := behind
  cases before with
  | nil => exact ⟨"", right, fun x => by simp [behind]⟩
  | cons y rest =>
    refine ⟨String.intercalate separator (y :: rest) ++ separator, right, fun x => ?_⟩
    rw [String.intercalate_append_of_ne_nil (by simp) (by simp), behind]
    simp only [String.append_assoc]

theorem intercalate_neighbours (before after : List String) (x y : String) :
    String.intercalate separator (before ++ x :: y :: after) =
      String.intercalate separator (before ++ (x ++ separator ++ y) :: after) := by
  have alone : String.intercalate separator (x :: y :: after) =
      String.intercalate separator ((x ++ separator ++ y) :: after) := by
    simp
  cases before with
  | nil => exact alone
  | cons z rest =>
    rw [String.intercalate_append_of_ne_nil (by simp) (by simp), alone,
      String.intercalate_append_of_ne_nil (by simp) (by simp)]

end Texts

structure Line where
  rank : Rank
  text : String

/-- The lines of a group make one line. One part needs no group, and none is no filter. -/
def Line.joined (c : Connective) : List Line → Option Line
  | [] => none
  | [line] => some line
  | lines => some ⟨⊤, "(" ++
      String.intercalate c.word ((sortBy (rankLe Line.rank) lines).map Line.text) ++ ")"⟩

namespace Line

/-- The lines may change places around a word. -/
def Trade (c : Connective) (l m : Line) : Prop :=
  l.text ++ c.word ++ m.text = m.text ++ c.word ++ l.text

def joinedRank : List Rank → Option Rank
  | [] => none
  | [r] => some r
  | _ => some ⊤

theorem joined_rank (c : Connective) (lines : List Line) :
    (joined c lines).map Line.rank = joinedRank (lines.map Line.rank) := by
  match lines with
  | [] => rfl
  | [_] => rfl
  | _ :: _ :: _ => rfl

theorem joinedRank_perm {ranks ranks' : List Rank} (same : ranks.Perm ranks') :
    joinedRank ranks = joinedRank ranks' := by
  match ranks with
  | [] => rw [same.nil_eq]
  | [r] => rw [List.singleton_perm.mp same]
  | r :: r' :: rest =>
    match ranks', same.length_eq with
    | _ :: _ :: _, _ => rfl

variable {c : Connective} {l m : Line}

theorem joined_several {lines : List Line} (several : 2 ≤ lines.length) :
    joined c lines = some ⟨⊤, "(" ++
      String.intercalate c.word ((sortBy (rankLe Line.rank) lines).map Line.text) ++ ")"⟩ := by
  match lines, several with
  | _ :: _ :: _, _ => rfl

theorem exchanged_text {lines lines' : List Line} (exchanged : Exchanged Line.rank lines lines')
    (ties : ∀ l ∈ lines, ∀ m ∈ lines, l.rank = m.rank → Trade c l m) :
    String.intercalate c.word (lines.map Line.text) =
      String.intercalate c.word (lines'.map Line.text) := by
  induction exchanged with
  | nil => rfl
  | @cons a xs ys rest ih =>
    have later := ih fun l left m right =>
      ties l (List.mem_cons_of_mem a left) m (List.mem_cons_of_mem a right)
    by_cases none : xs = []
    · rw [none] at rest ⊢
      rw [rest.perm.nil_eq]
    · have some_line : ys ≠ [] := by
        rintro rfl
        exact none rest.perm.eq_nil
      rw [List.map_cons, List.map_cons, String.intercalate_cons_of_ne_nil (by simpa using none),
        String.intercalate_cons_of_ne_nil (by simpa using some_line), later]
  | @swap a d tie xs =>
    have trade := ties a (by simp) d (by simp) tie
    have one := intercalate_neighbours c.word [] (xs.map Line.text) a.text d.text
    have other := intercalate_neighbours c.word [] (xs.map Line.text) d.text a.text
    rw [trade] at one
    exact one.trans other.symm
  | trans first second ih₁ ih₂ =>
    refine (ih₁ ties).trans (ih₂ fun l left m right => ?_)
    exact ties l (first.perm.mem_iff.mpr left) m (first.perm.mem_iff.mpr right)

/-- A group does not show the order of its parts if ties may change places. -/
theorem joined_perm {lines lines' : List Line} (same : lines.Perm lines')
    (ties : ∀ l ∈ lines, ∀ m ∈ lines, l.rank = m.rank → Trade c l m) :
    joined c lines = joined c lines' := by
  match lines with
  | [] => rw [same.nil_eq]
  | [l] => rw [List.singleton_perm.mp same]
  | l :: m :: rest =>
    have several : 2 ≤ lines'.length := by simp [← same.length_eq]
    rw [joined_several several, joined_several (by simp)]
    rw [exchanged_text (exchanged_of_perm same) fun l left m right =>
      ties l ((sortBy_perm _ _).mem_iff.mp left) m ((sortBy_perm _ _).mem_iff.mp right)]

theorem joined_trade {rest : List Line} (tie : l.rank = m.rank)
    (same : joined c (l :: m :: rest) = joined c (m :: l :: rest)) : Trade c l m := by
  obtain ⟨before, after, one, other⟩ := insertSorted_tie tie (sortBy (rankLe Line.rank) rest)
  obtain ⟨left, right, around⟩ :=
    intercalate_around c.word (before.map Line.text) (after.map Line.text)
  rw [joined_several (by simp), joined_several (by simp)] at same
  simp only [sortBy, one, other, List.map_append, List.map_cons, intercalate_neighbours,
    around] at same
  exact eq_of_around (eq_of_around (congrArg Line.text (Option.some.inj same)))

theorem joined_replaced {before after : List Line} (tie : l.rank = m.rank)
    (same : (joined c (before ++ l :: after)).map Line.text =
      (joined c (before ++ m :: after)).map Line.text) : l.text = m.text := by
  by_cases alone : before = [] ∧ after = []
  · obtain ⟨rfl, rfl⟩ := alone
    exact Option.some.inj same
  · have several (k : Line) : 2 ≤ (before ++ k :: after).length := by
      rw [not_and_or, ← ne_eq, ← ne_eq, ← List.length_pos_iff, ← List.length_pos_iff] at alone
      rw [List.length_append, List.length_cons]
      omega
    obtain ⟨before', after', one, other⟩ := sortBy_replaced tie before after
    obtain ⟨left, right, around⟩ :=
      intercalate_around c.word (before'.map Line.text) (after'.map Line.text)
    rw [joined_several (several l), joined_several (several m)] at same
    simp only [one, other, List.map_append, List.map_cons, around] at same
    exact eq_of_around (eq_of_around (Option.some.inj same))

end Line

section Lines

variable (s : Schema) (t : Table) (b : Bindings)

def line? (f : Filter) : Option Line := (f.text s t b).toOption.map (Line.mk f.rank)

def Role.line? : Role → List Line → Option Line
  | .group c, lines => Line.joined c lines
  | .negation, lines => (Line.joined .and lines).map fun line => ⟨⊤, "NOT " ++ line.text⟩
  | .passage, lines => Line.joined .and lines
  | .condition c, _ => (Filter.leaf c).line? s t b
  | .refusal _, _ => none

def Place.line? (p : Place) : Option Line := (p.filter s).toOption.bind (Filter.line? s t b)

variable {s t b}

theorem line?_rank {f : Filter} {line : Line} (run : f.line? s t b = some line) :
    line.rank = f.rank := by
  obtain ⟨text, -, rfl⟩ := Option.map_eq_some_iff.mp run
  rfl

theorem line?_group (c : Connective) {parts : List Filter} (some_part : parts ≠ []) :
    (c.group parts).line? s t b = (parts.mapM (Filter.line? s t b)).map fun lines => ⟨⊤, "(" ++
      String.intercalate c.word ((sortBy (rankLe Line.rank) lines).map Line.text) ++ ")"⟩ := by
  have kind : (c.group parts).rank = ⊤ := by cases c <;> rfl
  have texts : (canonicalOrder parts).mapM (fun f => (f.text s t b).toOption) =
      ((canonicalOrder parts).mapM (Filter.line? s t b)).map (List.map Line.text) := by
    rw [← option_mapM_map]
    congr 1
    funext f
    cases made : f.text s t b <;> simp [Filter.line?, made, Except.toOption]
  rw [Filter.line?, kind, text_group c some_part, toOption_map, toOption_mapM, texts,
    canonicalOrder_eq, mapM_sortBy fun _ _ => line?_rank]
  cases parts.mapM (Filter.line? s t b) <;> rfl

theorem combine_line? (c : Connective) (parts : List Filter) :
    (combine c.group parts).toOption.bind (Filter.line? s t b) =
      (parts.mapM (Filter.line? s t b)).bind (Line.joined c) := by
  match parts with
  | [] => rfl
  | [f] => cases run : f.line? s t b <;> simp [combine, Except.toOption, run, Line.joined]
  | f :: g :: rest =>
    have several : (c.group (f :: g :: rest)).line? s t b = _ := line?_group c (by simp)
    simp only [combine, Except.toOption, Option.bind_some, several, List.mapM_cons]
    cases f.line? s t b with
    | none => rfl
    | some first =>
      cases g.line? s t b with
      | none => rfl
      | some second => cases rest.mapM (Filter.line? s t b) <;> rfl

theorem not_line? (f : Filter) : (Filter.not f).line? s t b =
    (f.line? s t b).map fun line => ⟨⊤, "NOT " ++ line.text⟩ := by
  rw [Filter.line?, text_not, toOption_map, Filter.line?, Option.map_map, Option.map_map]
  rfl

theorem Place.line?_eq (p : Place) : p.line? s t b = p.slot.check.toOption.bind fun _ =>
    ((p.inner s).mapM (Place.line? s t b)).bind ((p.role s).line? s t b) := by
  -- The filters inside are made first and then written; line by line it is the same.
  have each : (p.inner s).mapM (Place.line? s t b) =
      ((p.inner s).mapM (Place.filter s)).toOption.bind
        fun parts => parts.mapM (Filter.line? s t b) := by
    rw [toOption_mapM, ← option_mapM_bind]
    rfl
  rw [Place.line?, filter_eq, each]
  simp only [toOption_bind, Option.bind_assoc]
  congr 1
  funext _
  cases made : (p.inner s).mapM (Place.filter s) with
  | error e => rfl
  | ok parts =>
    change ((p.role s).build parts).toOption.bind _ = (parts.mapM (Filter.line? s t b)).bind _
    cases role : p.role s with
    | group c => exact combine_line? c parts
    | negation =>
      have unnegated := combine_line? (s := s) (t := t) (b := b) .and parts
      calc ((Role.negation.build parts).toOption.bind (Filter.line? s t b))
          = ((combine .all parts).toOption.bind (Filter.line? s t b)).map
              fun line => ⟨⊤, "NOT " ++ line.text⟩ := by
            rw [Role.build, toOption_map, Option.bind_map, Option.map_bind]
            exact congrArg _ (funext not_line?)
        _ = ((parts.mapM (Filter.line? s t b)).bind (Line.joined .and)).map
              fun line => ⟨⊤, "NOT " ++ line.text⟩ := congrArg _ unnegated
        _ = (parts.mapM (Filter.line? s t b)).bind (Role.line? s t b .negation) := by
            rw [Option.map_bind]
            rfl
    | passage => exact combine_line? .and parts
    | condition c =>
      rw [Place.inner_condition role] at made
      cases made
      rfl
    | refusal e => cases parts.mapM (Filter.line? s t b) <;> rfl

theorem leaf_map_rank (c : Condition) : ((Filter.leaf c).line? s t b).map Line.rank =
    if (c.leaf s t).isOk then some (Filter.leaf c).rank else none := by
  rw [Filter.line?, text_leaf]
  cases c.leaf s t <;> rfl

theorem Place.line?_refused {p : Place} {e : Error} (role : p.role s = .refusal e) :
    p.line? s t b = none := by
  rw [Place.line?_eq, role]
  cases p.slot.check with
  | error e => rfl
  | ok passed => cases (p.inner s).mapM (Place.line? s t b) <;> rfl

theorem mem_lines {places : List Place} {lines : List Line} {l : Line}
    (run : places.mapM (Place.line? s t b) = some lines) (member : l ∈ lines) :
    ∃ q ∈ places, q.line? s t b = some l :=
  forall₂_mem_left (option_mapM_eq_some.mp run).flip member

theorem Place.line?_eq_some {p : Place} {k : Line} : p.line? s t b = some k ↔
    p.slot.check = .ok () ∧ ∃ lines, (p.inner s).mapM (Place.line? s t b) = some lines ∧
      (p.role s).line? s t b lines = some k := by
  rw [Place.line?_eq]
  cases p.slot.check with
  | error e => simp [Except.toOption]
  | ok passed => simp [Except.toOption, Option.bind_eq_some_iff]

theorem Role.line?_replaced {r : Role} {before after : List Line} {l m k : Line}
    (inside : ∀ c, r ≠ .condition c) (tie : l.rank = m.rank)
    (made : r.line? s t b (before ++ l :: after) = some k)
    (same : r.line? s t b (before ++ m :: after) = some k) : l = m := by
  have text : l.text = m.text := by
    cases r with
    | group c => exact Line.joined_replaced tie (congrArg _ (made.trans same.symm))
    | negation =>
      obtain ⟨one, joined, rfl⟩ := Option.map_eq_some_iff.mp made
      obtain ⟨other, joined', texts⟩ := Option.map_eq_some_iff.mp same
      have texts := (String.append_right_inj "NOT ").mp (congrArg Line.text texts)
      have same : (Line.joined .and (before ++ l :: after)).map Line.text =
          (Line.joined .and (before ++ m :: after)).map Line.text := by
        rw [joined, joined', Option.map_some, Option.map_some, texts]
      exact Line.joined_replaced tie same
    | passage => exact Line.joined_replaced tie (congrArg _ (made.trans same.symm))
    | condition c => exact absurd rfl (inside c)
    | refusal e => cases made
  cases l
  cases m
  cases tie
  cases text
  rfl

end Lines

end Lateral.Filter
