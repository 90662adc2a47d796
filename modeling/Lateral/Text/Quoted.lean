/-!
Text literals: a text between single quotes, each single quote inside written twice.
-/

namespace Lateral.Text

def doubleQuotes : List Char → List Char
  | [] => []
  | c :: rest => if c = '\x27' then c :: c :: doubleQuotes rest else c :: doubleQuotes rest

theorem doubleQuotes_injective {s t : List Char} (same : doubleQuotes s = doubleQuotes t) :
    s = t := by
  induction s generalizing t with
  | nil =>
    cases t with
    | nil => rfl
    | cons d rest => grind [doubleQuotes]
  | cons c rest ih =>
    cases t with
    | nil => grind [doubleQuotes]
    | cons d rest' => grind [doubleQuotes]

def escape (s : String) : String := String.ofList (doubleQuotes s.toList)

def quote (s : String) : String := "'" ++ escape s ++ "'"

theorem quote_injective {s t : String} (same : quote s = quote t) : s = t := by
  have bodies : escape s = escape t :=
    (String.append_right_inj "'").mp ((String.append_left_inj "'").mp same)
  exact String.toList_inj.mp (doubleQuotes_injective (String.ofList_injective bodies))

end Lateral.Text
