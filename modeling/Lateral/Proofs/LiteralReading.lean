import Lateral.Sql.Name

/-!
Literals read back. A reader takes two quotes for one of the text and a quote that stands alone for
the end, so it has to look one character ahead. What it takes from a text is what quoting puts
there, and nothing else: no text ends its literal early, whatever quotes it holds.
-/

namespace Lateral

namespace Text

/-- The text of a literal whose opening quote has been read, and what follows the literal. -/
@[simp] def readBody : List Char → Option (List Char × List Char)
  | [] => none
  | '\x27' :: '\x27' :: more => (readBody more).map (Prod.map ('\x27' :: ·) id)
  | '\x27' :: more => some ([], more)
  | c :: more => (readBody more).map (Prod.map (c :: ·) id)

def readLiteral (text : String) : Option (String × String) :=
  match text.toList with
  | '\x27' :: body => (readBody body).map (Prod.map String.ofList String.ofList)
  | _ => none

def Apart (rest : String) : Prop := rest.toList.head? ≠ some '\x27'

section Body

variable {s rest : List Char}

theorem readBody_closing (apart : rest.head? ≠ some '\x27') :
    readBody ('\x27' :: rest) = some ([], rest) := by
  cases rest with
  | nil => rfl
  | cons c more =>
    rw [readBody]
    rintro again ⟨⟩
    exact apart rfl

theorem readBody_plain {c : Char} (plain : c ≠ '\x27') (more : List Char) :
    readBody (c :: more) = (readBody more).map (Prod.map (c :: ·) id) := by
  rw [readBody]
  · intro again same
    exact absurd same plain
  · intro same
    exact absurd same plain

theorem readBody_doubleQuotes (apart : rest.head? ≠ some '\x27') :
    readBody (doubleQuotes s ++ '\x27' :: rest) = some (s, rest) := by
  induction s with
  | nil => exact readBody_closing apart
  | cons c s ih =>
    rw [doubleQuotes]
    by_cases quote : c = '\x27'
    · subst quote
      rw [if_pos rfl, List.cons_append, List.cons_append, readBody, ih]
      rfl
    · rw [if_neg quote, List.cons_append, readBody_plain quote, ih]
      rfl

theorem doubleQuotes_of_readBody {chars : List Char} (read : readBody chars = some (s, rest)) :
    chars = doubleQuotes s ++ '\x27' :: rest ∧ rest.head? ≠ some '\x27' := by
  fun_induction readBody chars generalizing s with
  | case1 => cases read
  | case2 more ih =>
    obtain ⟨⟨s, rest⟩, inner, same⟩ := Option.map_eq_some_iff.mp read
    cases same
    obtain ⟨rfl, apart⟩ := ih inner
    exact ⟨rfl, apart⟩
  | case3 more alone =>
    cases read
    refine ⟨rfl, ?_⟩
    intro starts
    obtain ⟨again, same⟩ := List.head?_eq_some_iff.mp starts
    exact alone again same
  | case4 c more _ plain ih =>
    obtain ⟨⟨s, rest⟩, inner, same⟩ := Option.map_eq_some_iff.mp read
    cases same
    obtain ⟨rfl, apart⟩ := ih inner
    rw [doubleQuotes, if_neg plain]
    exact ⟨rfl, apart⟩

theorem readBody_eq_some_iff {chars : List Char} :
    readBody chars = some (s, rest) ↔
      chars = doubleQuotes s ++ '\x27' :: rest ∧ rest.head? ≠ some '\x27' := by
  constructor
  · exact doubleQuotes_of_readBody
  · rintro ⟨rfl, apart⟩
    exact readBody_doubleQuotes apart

end Body

section Literal

variable {text s rest : String}

theorem toList_quote_append (s rest : String) :
    (quote s ++ rest).toList = '\x27' :: (doubleQuotes s.toList ++ '\x27' :: rest.toList) := by
  simp [quote, escape]

theorem readLiteral_eq_some_iff :
    readLiteral text = some (s, rest) ↔ text = quote s ++ rest ∧ Apart rest := by
  rw [← String.toList_inj, toList_quote_append, readLiteral]
  split
  · rename_i body chars
    have unpacked : (readBody body).map (Prod.map String.ofList String.ofList) = some (s, rest) ↔
        readBody body = some (s.toList, rest.toList) := by
      constructor
      · intro read
        obtain ⟨⟨chars, more⟩, inner, same⟩ := Option.map_eq_some_iff.mp read
        cases same
        rw [inner, String.toList_ofList, String.toList_ofList]
      · intro inner
        simp [inner]
    rw [unpacked, readBody_eq_some_iff, chars, List.cons_inj_right]
    rfl
  · rename_i other
    constructor
    · intro read
      cases read
    · rintro ⟨chars, -⟩
      exact absurd chars (other _)

theorem readLiteral_quote (s : String) (apart : Apart rest) :
    readLiteral (quote s ++ rest) = some (s, rest) :=
  readLiteral_eq_some_iff.mpr ⟨rfl, apart⟩

theorem quote_append_inj {t more : String} (apart : Apart rest) (apart' : Apart more)
    (same : quote s ++ rest = quote t ++ more) : s = t ∧ rest = more := by
  have read := readLiteral_quote s apart
  rw [same, readLiteral_quote t apart'] at read
  cases read
  exact ⟨rfl, rfl⟩

end Literal

end Text

open Text

/-- A quoted text is read back, with nothing lost or left over, wherever no quote follows it. So two
texts are never quoted alike, and a literal at the front of a quoted text is the whole of it or has
a quote right behind it, which makes it no end. With a type, and where it counts rows, a literal is
followed by no quote. -/
theorem quoted_text_reads_back (s rest : String) :
    (readLiteral (quote s ++ rest) = some (s, rest) ↔ Apart rest) ∧
    Function.Injective quote ∧
    (∀ t back, quote s = quote t ++ back → back = "" ∨ ¬ Apart back) ∧
    (∀ sqlType, readLiteral (Sql.typed s sqlType) = some (s, " :: " ++ sqlType)) ∧
    ∃ inside, Sql.integer s = "(" ++ inside ∧ readLiteral inside = some (s, ") :: integer") := by
  have ended : Apart "" := by simp [Apart]
  refine ⟨?_, ?_, ?_, ?_, ?_⟩
  · rw [readLiteral_eq_some_iff]
    exact and_iff_right rfl
  · intro t u same
    exact quote_injective same
  · intro t back same
    by_cases apart : Apart back
    · have whole : quote s ++ "" = quote t ++ back := String.append_empty.trans same
      exact .inl (quote_append_inj ended apart whole).2.symm
    · exact .inr apart
  · intro sqlType
    rw [Sql.typed, String.append_assoc]
    exact readLiteral_quote s (by simp [Apart])
  · refine ⟨quote s ++ ") :: integer", String.append_assoc, ?_⟩
    exact readLiteral_quote s (by simp [Apart])

example : readLiteral "'''' :: text" = some ("'", " :: text") ∧ readLiteral "'''" = none := by
  decide +kernel

end Lateral
