import Lateral.Proofs.FilterLines

/-!
Comparisons with a list of nothing. The text of a value is never empty, so an operand reads as an
empty list only if it is one. Of the operators that are accepted with an empty list, two turn into a
constant and one never looks at its operand; the comparison with the primary key writes the list as
it is.
-/

namespace Lateral
open Outcome

namespace Text

def startsValue (s : String) : Bool :=
  match s.toList with
  | [] => false
  | c :: _ => c ≠ '(' && c ≠ 'a'

theorem startsValue_append {s : String} (starts : startsValue s = true) (t : String) :
    startsValue (s ++ t) = true := by
  unfold startsValue at starts ⊢
  rw [String.toList_append]
  cases spelled : s.toList with
  | nil =>
    rw [spelled] at starts
    cases starts
  | cons c rest =>
    rw [spelled] at starts
    exact starts

theorem startsValue_digits {digits : List Char} (some_digit : digits ≠ [])
    (each : ∀ c ∈ digits, c.isDigit = true) : startsValue (String.ofList digits) = true := by
  obtain ⟨c, rest, rfl⟩ := List.exists_cons_of_ne_nil some_digit
  have digit := each c List.mem_cons_self
  have apart : c ≠ '(' ∧ c ≠ 'a' := by
    constructor
    · rintro rfl
      cases digit
    · rintro rfl
      cases digit
  simpa [startsValue] using apart

theorem isDigit_of_toDigits {n : Nat} {c : Char} (member : c ∈ Nat.toDigits 10 n) :
    c.isDigit = true :=
  Nat.isDigit_of_mem_toDigits (by omega) (by omega) member

theorem startsValue_nat (n : Nat) : startsValue (String.ofList (Nat.toDigits 10 n)) = true :=
  startsValue_digits Nat.toDigits_ne_nil fun _ => isDigit_of_toDigits

theorem startsValue_inPlaces (n : Nat) (p : Int) :
    startsValue (Decimal.inPlaces false n p) = true := by
  unfold Decimal.inPlaces
  dsimp only
  split
  · exact startsValue_append (startsValue_append (startsValue_nat n) _) _
  · split
    · apply startsValue_append
      apply startsValue_append
      apply startsValue_digits
      · rw [← List.length_pos_iff, List.length_take]
        omega
      · intro c member
        exact isDigit_of_toDigits (List.mem_of_mem_take member)
    · apply startsValue_append
      apply startsValue_append
      decide

theorem startsValue_double (x : Double) : startsValue (x.render Literal.numberLayout) = true := by
  unfold Double.render
  split
  · split
    · exact startsValue_append (by decide) _
    · rw [String.empty_append]
      exact startsValue_inPlaces _ _
  · split
    · decide
    · split
      · decide
      · decide

theorem startsValue_int (n : Int) : startsValue (toString n) = true := by
  cases n with
  | ofNat m => exact startsValue_nat m
  | negSucc m => exact startsValue_append (by decide) _

theorem startsValue_quote (s : String) : startsValue (quote s) = true :=
  startsValue_append (startsValue_append (by decide) _) _

end Text

section Operands

variable (b : Bindings)

theorem Bindings.startsValue_literal (name : String) :
    Text.startsValue (b.literal name) = true := by
  unfold Bindings.literal
  split
  · exact Text.startsValue_quote _
  · exact Text.startsValue_append (Text.startsValue_append (by decide) _) _

theorem Literal.startsValue (l : Literal) : Text.startsValue (Template.fill b l.sql) = true := by
  cases l with
  | null =>
    rw [Literal.sql, Template.fill_text]
    decide
  | bool value =>
    cases value with
    | false =>
      rw [Literal.sql, Template.fill_text]
      decide
    | true =>
      rw [Literal.sql, Template.fill_text]
      decide
  | int n =>
    rw [Literal.sql, Template.fill_text]
    exact Text.startsValue_int _
  | float x =>
    rw [Literal.sql, Template.fill_text]
    exact Text.startsValue_double x
  | text s =>
    rw [Literal.sql, Template.fill_text]
    exact Text.startsValue_quote s
  | «variable» name sqlType =>
    have filled : Template.fill b (Argument.variable name).literal = b.literal name := by
      simp [Template.fill, Argument.literal, Piece.fill, String.join_cons]
    rw [Literal.sql, Argument.typed, Template.fill_append, filled]
    exact Text.startsValue_append (b.startsValue_literal name) _

def Comparand.ShowsEmpty (o : Comparand) : Prop :=
  Template.fill b o.sql = "()" ∨ Template.fill b o.sql = "array[]"

variable {b}

theorem Literal.startsValue_list {values : List Literal} (some_value : values ≠ []) :
    Text.startsValue (Template.fill b (Template.join ", " (values.map Literal.sql))) = true := by
  obtain ⟨l, rest, rfl⟩ := List.exists_cons_of_ne_nil some_value
  rw [Template.fill_join, List.map_cons, List.map_cons]
  cases rest with
  | nil =>
    rw [List.map_nil, List.map_nil, String.intercalate_singleton]
    exact l.startsValue b
  | cons m more =>
    rw [String.intercalate_cons_of_ne_nil (by simp), String.append_assoc]
    exact Text.startsValue_append (l.startsValue b) _

theorem Literal.list_eq_empty_iff {values : List Literal} :
    Template.fill b (Template.join ", " (values.map Literal.sql)) = "" ↔ values = [] := by
  constructor
  · intro empty
    by_contra some_value
    have starts := startsValue_list (b := b) some_value
    rw [empty] at starts
    cases starts
  · rintro rfl
    rfl

theorem Text.brackets_empty_iff {left right inside : String} :
    left ++ inside ++ right = left ++ right ↔ inside = "" := by
  constructor
  · intro same
    apply Filter.eq_of_around
    rw [same, String.append_empty]
  · rintro rfl
    rw [String.append_empty]

theorem Comparand.parens_show (inside : String) :
    "(" ++ inside ++ ")" = "()" ∨ "(" ++ inside ++ ")" = "array[]" ↔ inside = "" := by
  have foreign : "(" ++ inside ++ ")" ≠ "array[]" := by
    intro same
    simpa using congrArg String.toList same
  have own : "()" = "(" ++ ")" := rfl
  rw [own, Text.brackets_empty_iff, or_iff_left foreign]

theorem Comparand.array_shows (inside : String) :
    "array[" ++ inside ++ "]" = "()" ∨ "array[" ++ inside ++ "]" = "array[]" ↔ inside = "" := by
  have foreign : "array[" ++ inside ++ "]" ≠ "()" := by
    intro same
    simpa using congrArg String.toList same
  have own : "array[]" = "array[" ++ "]" := rfl
  rw [own, Text.brackets_empty_iff, or_iff_right foreign]

theorem Comparand.showsEmpty_iff (o : Comparand) :
    o.ShowsEmpty b ↔ o = .list [] ∨ o = .array [] := by
  unfold ShowsEmpty
  cases o with
  | single l =>
    have starts := l.startsValue b
    constructor
    · rw [Comparand.sql]
      rintro (list | array)
      · rw [list] at starts
        cases starts
      · rw [array] at starts
        cases starts
    · simp
  | inParens l =>
    have starts := l.startsValue b
    simp only [Comparand.sql, Template.fill_append, Template.fill_text, parens_show]
    constructor
    · intro empty
      rw [empty] at starts
      cases starts
    · simp
  | list values =>
    simp only [Comparand.sql, Template.fill_append, Template.fill_text, parens_show,
      Literal.list_eq_empty_iff]
    simp
  | array values =>
    simp only [Comparand.sql, Template.fill_append, Template.fill_text, array_shows,
      Literal.list_eq_empty_iff]
    simp

end Operands

section Conditions

/-- What becomes of a comparison with a list of nothing. -/
inductive Predicate.OfEmptyList : Operator → Predicate → Prop where
  | isIn : OfEmptyList .isIn (.constant false)
  | notIn : OfEmptyList .notIn (.constant true)
  | isNull (column : Sql.ColumnRef) : OfEmptyList .isNull (.nullness column true)
  | equalsId (column : Sql.ColumnRef) :
      OfEmptyList .equalsId (.compare column .equalsId (.list []))

def Predicate.ShowsEmpty (b : Bindings) (p : Predicate) : Prop :=
  ∃ column op operand, p = .compare column op operand ∧ operand.ShowsEmpty b

variable {s : Schema} {t : Table} {b : Bindings}

theorem Operand.literals_empty {sqlType : String} {items : List Operand} {values : List Literal}
    (run : literals sqlType items = .ok values) : values = [] ↔ items = [] := by
  have count := (mapM_eq_ok.mp run).length_eq
  rw [← List.length_eq_zero_iff, ← List.length_eq_zero_iff, count]

theorem Operand.comparand_empty {op : Operator} {sqlType : String} {operand : Operand}
    {o : Comparand} (run : operand.comparand op sqlType = .ok o) :
    o.ShowsEmpty b ↔ operand = .list [] := by
  rw [Comparand.showsEmpty_iff]
  unfold comparand at run
  split at run
  · rename_i items
    split at run
    · obtain ⟨values, made, rfl⟩ := map_eq_ok.mp run
      simpa using literals_empty made
    · obtain ⟨values, made, rfl⟩ := map_eq_ok.mp run
      simpa using literals_empty made
  · rename_i single
    have alone : operand ≠ .list [] := single []
    split at run
    · cases run
      split <;> simpa using alone
    · cases run

/-- An accepted condition on an empty list has one of four operators. -/
theorem Condition.predicate_ofEmptyList {c : Condition} {p : Predicate}
    (run : c.predicate s t = .ok p) (empty : c.operand = .list []) :
    Predicate.OfEmptyList c.operator p := by
  unfold predicate at run
  rw [empty] at run
  split at run
  · rename_i op
    simp only [bind_eq_ok, pure_eq_ok] at run
    obtain ⟨key, -, operand, made, rfl⟩ := run
    cases made
    rw [op]
    exact .equalsId _
  · simp only [bind_eq_ok, pure_eq_ok] at run
    obtain ⟨column, -, words, refused, -⟩ := run
    cases refused
  · rename_i op
    simp only [bind_eq_ok, pure_eq_ok] at run
    obtain ⟨column, -, rfl⟩ := run
    rw [op]
    exact .isNull _
  · obtain ⟨column, -, run⟩ := bind_eq_ok.mp run
    dsimp only [emptyListPredicate] at run
    split at run
    · rename_i op
      cases run
      rw [op]
      exact .isIn
    · rename_i op
      cases run
      rw [op]
      exact .notIn
    · cases run

theorem Condition.predicate_compare {c : Condition} {column : Sql.ColumnRef} {op : Operator}
    {o : Comparand} (run : c.predicate s t = .ok (.compare column op o)) :
    (∃ sqlType, c.operand.comparand op sqlType = .ok o) ∧
      (c.operand = .list [] → c.operator = .equalsId) := by
  constructor
  · unfold predicate at run
    split at run
    · simp only [bind_eq_ok, pure_eq_ok] at run
      obtain ⟨key, -, operand, made, same⟩ := run
      cases same
      exact ⟨_, made⟩
    · simp only [bind_eq_ok, pure_eq_ok] at run
      obtain ⟨column, -, words, -, same⟩ := run
      cases same
    · simp only [bind_eq_ok, pure_eq_ok] at run
      obtain ⟨column, -, same⟩ := run
      cases same
    · obtain ⟨column, -, run⟩ := bind_eq_ok.mp run
      split at run
      · unfold emptyListPredicate at run
        split at run <;> cases run
      · simp only [bind_eq_ok, pure_eq_ok] at run
        obtain ⟨operand, made, same⟩ := run
        cases same
        exact ⟨_, made⟩
  · intro empty
    cases operator : c.operator with
    | equalsId => rfl
    | _ =>
      have settled := predicate_ofEmptyList run empty
      rw [operator] at settled
      cases settled

theorem Condition.predicate_showsEmpty {c : Condition} {p : Predicate}
    (run : c.predicate s t = .ok p) :
    p.ShowsEmpty b ↔ c.operator = .equalsId ∧ c.operand = .list [] := by
  constructor
  · rintro ⟨column, op, o, rfl, shows⟩
    obtain ⟨⟨sqlType, made⟩, only⟩ := predicate_compare run
    have empty := (Operand.comparand_empty made).mp shows
    exact ⟨only empty, empty⟩
  · rintro ⟨operator, empty⟩
    have settled := predicate_ofEmptyList run empty
    rw [operator] at settled
    cases settled with
    | equalsId column =>
      exact ⟨column, .equalsId, .list [], rfl, (Comparand.showsEmpty_iff _).mpr (Or.inl rfl)⟩

theorem Condition.leaf_predicate {c : Condition} {l : Leaf} (run : c.leaf s t = .ok l) :
    ∃ last, c.predicate s last = .ok l.predicate := by
  simp only [leaf, bind_eq_ok, pure_eq_ok] at run
  obtain ⟨found, -, p, made, rfl⟩ := run
  exact ⟨found.2, made⟩

end Conditions

namespace Filter

mutual

def conditions : Filter → List Condition
  | .all parts => conditionsOf parts
  | .any parts => conditionsOf parts
  | .not part => conditions part
  | .never => []
  | .leaf c => [c]

def conditionsOf : List Filter → List Condition
  | [] => []
  | part :: rest => conditions part ++ conditionsOf rest

end

theorem conditionsOf_eq (parts : List Filter) :
    conditionsOf parts = parts.flatMap conditions := by
  induction parts with
  | nil => rfl
  | cons part rest ih => rw [conditionsOf, ih, List.flatMap_cons]

variable {s : Schema} {t : Table}

structure Holds (s : Schema) (t : Table) (conditions : List Condition) (ts : List Token) :
    Prop where
  leaf : ∀ l, .leaf l ∈ ts → ∃ c ∈ conditions, c.leaf s t = .ok l
  condition : ∀ c ∈ conditions, ∃ l, c.leaf s t = .ok l ∧ .leaf l ∈ ts

theorem mem_joinTokens {c : Connective} {l : Leaf} {texts : List (List Token)} :
    .leaf l ∈ joinTokens c.token texts ↔ ∃ ts ∈ texts, .leaf l ∈ ts := by
  have other : Token.leaf l ≠ c.token := by cases c <;> simp [Connective.token]
  induction texts with
  | nil => simp [joinTokens]
  | cons ts rest ih =>
    cases rest with
    | nil => simp [joinTokens]
    | cons us more =>
      simp only [joinTokens, List.mem_append, List.mem_cons, other, false_or, ih]
      simp

theorem mem_groupTokens {c : Connective} {l : Leaf} {texts : List (List Token)} :
    .leaf l ∈ groupTokens c.token c.unit texts ↔ ∃ ts ∈ texts, .leaf l ∈ ts := by
  cases texts with
  | nil => simp [groupTokens]
  | cons ts rest =>
    rw [groupTokens, if_neg (by simp), List.mem_cons, List.mem_append, mem_joinTokens]
    simp

theorem holds_group {c : Connective} {parts : List Filter} {ts : List Token}
    (each : ∀ f ∈ canonicalOrder parts, ∀ ts, nestedTokens s t f = .ok ts →
      Holds s t f.conditions ts)
    (run : groupTokens c.token c.unit <$> (canonicalOrder parts).mapM (nestedTokens s t) = .ok ts) :
    Holds s t (conditionsOf parts) ts := by
  obtain ⟨texts, made, rfl⟩ := map_eq_ok.mp run
  rw [conditionsOf_eq]
  constructor
  · intro l member
    obtain ⟨us, among, inside⟩ := mem_groupTokens.mp member
    obtain ⟨f, listed, written⟩ := mapM_made made among
    obtain ⟨condition, own, resolved⟩ := (each f listed us written).leaf l inside
    exact ⟨condition, List.mem_flatMap.mpr ⟨f, (canonicalOrder_perm parts).mem_iff.mp listed, own⟩,
      resolved⟩
  · intro condition member
    obtain ⟨f, listed, own⟩ := List.mem_flatMap.mp member
    have ordered := (canonicalOrder_perm parts).mem_iff.mpr listed
    obtain ⟨us, among, written⟩ := mapM_mem made ordered
    obtain ⟨l, resolved, inside⟩ := (each f ordered us written).condition condition own
    exact ⟨l, resolved, mem_groupTokens.mpr ⟨us, among, inside⟩⟩

theorem nestedTokens_holds (f : Filter) {ts : List Token} (run : nestedTokens s t f = .ok ts) :
    Holds s t f.conditions ts := by
  induction f using nestedTokens.induct generalizing ts with
  | case1 parts ih =>
    rw [nestedTokens_all] at run
    exact holds_group (c := .and) (fun f member ts => ih ⟨f, member⟩) run
  | case2 parts ih =>
    rw [nestedTokens_any] at run
    exact holds_group (c := .or) (fun f member ts => ih ⟨f, member⟩) run
  | case3 part ih =>
    rw [nestedTokens] at run
    obtain ⟨inner, made, rfl⟩ := map_eq_ok.mp run
    obtain ⟨leaves, held⟩ := ih made
    constructor
    · intro l member
      exact leaves l (List.mem_of_ne_of_mem (by simp) member)
    · intro c member
      obtain ⟨l, resolved, inside⟩ := held c member
      exact ⟨l, resolved, List.mem_cons_of_mem _ inside⟩
  | case4 =>
    rw [nestedTokens] at run
    cases run
    exact ⟨by simp, by simp [conditions]⟩
  | case5 c =>
    rw [nestedTokens] at run
    obtain ⟨l, made, rfl⟩ := map_eq_ok.mp run
    constructor
    · intro m member
      cases List.mem_singleton.mp member
      exact ⟨c, List.mem_singleton_self c, made⟩
    · intro d member
      rw [List.mem_singleton.mp member]
      exact ⟨l, made, List.mem_singleton_self _⟩

end Filter

/-- In the text of an accepted filter a column is compared with an empty list exactly if the filter
compares the primary key with one. Every condition of the filter is a leaf of the text and the other
way round; one on an empty list has turned into a constant, has not looked at its operand, or is
such a comparison with the primary key. -/
theorem empty_list_compared_iff {s : Schema} {t : Table} {b : Bindings} {f : Filter} {text : String}
    (accepted : f.text s t b = .ok text) :
    ∃ ts, f.tokens s t = .ok ts ∧ text = Filter.tokenText b ts ∧
      ((∃ l, .leaf l ∈ ts ∧ l.predicate.ShowsEmpty b) ↔
        ∃ c ∈ f.conditions, c.operator = .equalsId ∧ c.operand = .list []) ∧
      (∀ l, .leaf l ∈ ts → ∃ c ∈ f.conditions, c.leaf s t = .ok l) ∧
      ∀ c ∈ f.conditions, ∃ l, c.leaf s t = .ok l ∧ .leaf l ∈ ts ∧
        (l.predicate.ShowsEmpty b ↔ c.operator = .equalsId ∧ c.operand = .list []) ∧
        (c.operand = .list [] → Predicate.OfEmptyList c.operator l.predicate) := by
  rw [Filter.text_eq_nested] at accepted
  obtain ⟨ts, made, rfl⟩ := map_eq_ok.mp accepted
  obtain ⟨leaves, held⟩ := Filter.nestedTokens_holds f made
  have settled {c : Condition} {l : Leaf} (resolved : c.leaf s t = .ok l) :
      (l.predicate.ShowsEmpty b ↔ c.operator = .equalsId ∧ c.operand = .list []) ∧
        (c.operand = .list [] → Predicate.OfEmptyList c.operator l.predicate) := by
    obtain ⟨last, run⟩ := Condition.leaf_predicate resolved
    exact ⟨Condition.predicate_showsEmpty run, Condition.predicate_ofEmptyList run⟩
  refine ⟨ts, by rw [Filter.tokens_eq_nested, made], rfl, ?_, leaves, ?_⟩
  · constructor
    · rintro ⟨l, member, shows⟩
      obtain ⟨c, own, resolved⟩ := leaves l member
      exact ⟨c, own, (settled resolved).1.mp shows⟩
    · rintro ⟨c, own, compared⟩
      obtain ⟨l, resolved, member⟩ := held c own
      exact ⟨l, member, (settled resolved).1.mpr compared⟩
  · intro c own
    obtain ⟨l, resolved, member⟩ := held c own
    exact ⟨l, resolved, member, settled resolved⟩

def Condition.onNothing (column : String) (op : Operator) : Condition := ⟨[], column, op, .list []⟩

def valvesByNothing : Filter :=
  .all [.leaf (.onNothing "mark" .isNull), .not (.leaf (.onNothing "mark" .notIn)),
    .leaf ⟨[], "mark", .hasKeyAny, .list [.text "a"]⟩, .leaf (.onNothing "id" .isIn)]

theorem valvesByNothing_compared :
    valvesByNothing.text {} valveTable {} =
      .ok ("(false AND ((\"valves\".\"mark\") IS NULL) AND " ++
        "((\"valves\".\"mark\") ?| array['a']) AND NOT true)") ∧
    ∃ ts, valvesByNothing.tokens {} valveTable = .ok ts ∧
      (¬ ∃ l, .leaf l ∈ ts ∧ l.predicate.ShowsEmpty {}) ∧
      ∃ l, .leaf l ∈ ts ∧ Predicate.OfEmptyList .isIn l.predicate := by
  have written : valvesByNothing.text {} valveTable {} =
      .ok ("(false AND ((\"valves\".\"mark\") IS NULL) AND " ++
        "((\"valves\".\"mark\") ?| array['a']) AND NOT true)") := by
    decide +kernel
  obtain ⟨ts, made, -, compared, -, settled⟩ := empty_list_compared_iff written
  refine ⟨written, ts, made, ?_, ?_⟩
  · rw [compared]
    rintro ⟨c, member, operator, -⟩
    simp [valvesByNothing, Filter.conditions, Filter.conditionsOf] at member
    rcases member with rfl | rfl | rfl | rfl <;> cases operator
  · obtain ⟨l, -, inside, -, ofEmpty⟩ := settled (.onNothing "id" .isIn)
      (by simp [valvesByNothing, Filter.conditions, Filter.conditionsOf])
    exact ⟨l, inside, ofEmpty rfl⟩

theorem key_compared_with_nothing :
    (Filter.leaf (.onNothing "" .equalsId)).text {} valveTable {} =
      .ok "((\"valves\".\"id\") = ())" ∧
    ∃ l, (Filter.leaf (.onNothing "" .equalsId)).tokens {} valveTable = .ok [.leaf l] ∧
      l.predicate.ShowsEmpty {} := by
  constructor
  · decide +kernel
  · refine ⟨⟨[], .compare ⟨"valves", "id"⟩ .equalsId (.list [])⟩, by decide +kernel, ?_⟩
    exact ⟨_, _, _, rfl, Or.inl (by decide)⟩

end Lateral
