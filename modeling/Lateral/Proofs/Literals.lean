import Lateral.Filter.FromJson
import Lateral.Sql.Template

/-!
Complete literals. What is quoted always is one. The mark of an open variable stands between its
quotes as it is, so the name decides.
-/

namespace Lateral

namespace Text

def quotesDoubled : List Char → Bool
  | [] => true
  | '\x27' :: '\x27' :: rest => quotesDoubled rest
  | c :: rest => c ≠ '\x27' && quotesDoubled rest

def IsLiteral (t : String) : Prop :=
  ∃ body, t = "'" ++ body ++ "'" ∧ quotesDoubled body.toList = true

theorem quotesDoubled_cons {c : Char} (plain : c ≠ '\x27') (rest : List Char) :
    quotesDoubled (c :: rest) = quotesDoubled rest := by
  rw [quotesDoubled]
  · simp [plain]
  · intro _ quote _
    exact plain quote

theorem quotesDoubled_doubleQuotes (s : List Char) : quotesDoubled (doubleQuotes s) = true := by
  induction s with
  | nil => rfl
  | cons c rest ih =>
    by_cases quote : c = '\x27'
    · subst quote
      exact ih
    · rw [doubleQuotes, if_neg quote, quotesDoubled_cons quote]
      exact ih

/-- A quote at the end of one part has to be doubled there, if the next part starts with none. -/
theorem quotesDoubled_append (s : List Char) {rest : List Char} (plain : rest.head? ≠ some '\x27') :
    quotesDoubled (s ++ rest) = (quotesDoubled s && quotesDoubled rest) := by
  fun_induction quotesDoubled s with
  | case1 => rfl
  | case2 s ih => exact ih
  | case3 c s alone ih =>
    by_cases quote : c = '\x27'
    -- a quote that stands alone finds no second one in what follows either
    · subst quote
      rw [List.cons_append, quotesDoubled]
      · rfl
      · intro more _ doubled
        cases s with
        | nil =>
          have starts : rest = '\x27' :: more := doubled
          exact plain (by rw [starts, List.head?_cons])
        | cons d s =>
          obtain ⟨rfl, _⟩ := List.cons.inj doubled
          exact alone s rfl rfl
    · rw [List.cons_append, quotesDoubled_cons quote, ih]
      simp [quote]

theorem isLiteral_iff {body : String} :
    IsLiteral ("'" ++ body ++ "'") ↔ quotesDoubled body.toList = true := by
  constructor
  · rintro ⟨other, same, doubled⟩
    have inner : body = other := by
      have chars := congrArg String.toList same
      simp only [String.toList_append, List.append_cancel_left_eq,
        List.append_cancel_right_eq] at chars
      exact String.toList_inj.mp chars
    rwa [inner]
  · intro doubled
    exact ⟨body, rfl, doubled⟩

theorem quote_isLiteral (s : String) : IsLiteral (quote s) := by
  refine isLiteral_iff.mpr ?_
  rw [escape, String.toList_ofList]
  exact quotesDoubled_doubleQuotes s.toList

end Text

theorem Bindings.mark_quotesDoubled (name : String) :
    Text.quotesDoubled (mark name).toList = Text.quotesDoubled name.toList := by
  have closing := Text.quotesDoubled_append name.toList
    (show ['\x7d', '\x7d'].head? ≠ some '\x27' by decide)
  rw [show (mark name).toList = '\x7b' :: '\x7b' :: (name.toList ++ ['\x7d', '\x7d']) by
    simp [mark, String.toList_append]]
  rw [Text.quotesDoubled_cons (by decide), Text.quotesDoubled_cons (by decide), closing]
  exact Bool.and_true _

theorem Bindings.literal_isLiteral_iff (b : Bindings) (name : String) :
    Text.IsLiteral (b.literal name) ↔
      (b.value? name).isSome ∨ Text.quotesDoubled name.toList = true := by
  unfold literal
  cases b.value? name with
  | some value => simp [Text.quote_isLiteral]
  | none => simp [Text.isLiteral_iff, mark_quotesDoubled]

/-- The literal of a variable stands alone or before its type. It is complete if the variable has a
value, and else only if the name itself has every quote doubled. Where rows are counted it always
is. -/
theorem variable_isLiteral_iff (b : Bindings) (name sqlType : String) :
    (Argument.variable name).literal.fill b = b.literal name ∧
    ((Argument.variable name).typed sqlType).fill b = b.literal name ++ " :: " ++ sqlType ∧
    (Text.IsLiteral (b.literal name) ↔
      (b.value? name).isSome ∨ Text.quotesDoubled name.toList = true) ∧
    (Argument.variable name).integer.fill b = "(" ++ b.count name ++ ") :: integer" ∧
    Text.IsLiteral (b.count name) := by
  refine ⟨?_, ?_, b.literal_isLiteral_iff name, ?_, Text.quote_isLiteral _⟩
  · simp [Argument.literal, Template.fill, Piece.fill]
  · simp [Argument.typed, Argument.literal, Template.text, Template.fill, Piece.fill,
      String.append_assoc]
  · simp [Argument.integer, Template.text, Template.fill, Piece.fill, String.append_assoc]

/-- Data may name a variable with a quote in it. Left open, it ends its literal early. -/
theorem open_name_ends_literal :
    Operand.ofPayload (.str "$a'b") = .variable "a'b" ∧
    ({} : Bindings).literal "a'b" = "'\x7b\x7ba'b\x7d\x7d'" ∧
    ¬ Text.IsLiteral (({} : Bindings).literal "a'b") := by
  refine ⟨rfl, by decide, ?_⟩
  rw [Bindings.literal_isLiteral_iff]
  decide

end Lateral
