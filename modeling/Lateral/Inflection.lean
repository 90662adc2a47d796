import Lateral.Inflection.Rules
import Lateral.Inflector

/-!
Singular and plural of English words, by rules.
-/

namespace Lateral.Inflection

/-- Gives a text the case of a word: all lower, all upper, or as it stands after a capital. -/
def restoreCase (w t : String) : String :=
  if w = t then t
  else if w = Text.lower w then Text.lower t
  else if w = Text.upper w then Text.upper t
  else if w.toList.head?.any Text.isUppercase && t ≠ "" then t
  else Text.lower t

/-- Replaces every dollar sign that a digit follows, here that of one group, by a text. -/
def substitute (digit : Char) (text : List Char) : List Char → List Char
  | [] => []
  | [c] => [c]
  | '$' :: d :: rest =>
    if d = digit then text ++ substitute digit text rest
    else '$' :: substitute digit text (d :: rest)
  | c :: rest => c :: substitute digit text rest

/-- Deletes every dollar sign, with the character after it if there is one. -/
def dropReferences : List Char → List Char
  | '$' :: _ :: rest => dropReferences rest
  | ['$'] => []
  | c :: rest => c :: dropReferences rest
  | [] => []

def digitChar (n : Nat) : Char := Char.ofNat ('0'.toNat + n)

/-- The text that takes the place of a match. The groups that took part are numbered in order, the
whole match coming first. -/
def replacementFor (w : String) (rule : Rule) (found : Pattern.Found) : List Char :=
  let restore (cs : List Char) := (restoreCase w (String.ofList cs)).toList
  ((found.whole :: found.groups).zipIdx).foldl
    (fun s (group, i) => substitute (digitChar i) (restore group) s)
    (restore rule.replacement.toList)

def Rule.apply? (rule : Rule) (w : String) : Option String :=
  (rule.pattern.find? w).map fun found =>
    String.ofList
      (dropReferences (found.before ++ replacementFor w rule found ++ found.after))

/-- Inflects a word. A word in the wanted form already, or without one, stays as it is. -/
def inflect (pairs : List (String × String)) (wanted : List String) (rules : List Rule)
    (w : String) : String :=
  let token := Text.lower w
  if wanted.contains token then restoreCase w token
  else match pairs.reverse.lookup token with
    | some form => restoreCase w form
    | none =>
      if w = "" ∨ uncountable.contains token then w
      else ((rules ++ uncountableEndings).reverse.findSome? fun rule => rule.apply? w).getD w

def singular (w : String) : String :=
  inflect (irregular.map Prod.swap) (irregular.map Prod.fst) singularRules w

def plural (w : String) : String :=
  inflect irregular (irregular.map Prod.snd) pluralRules w

end Lateral.Inflection

namespace Lateral

def Inflector.english : Inflector := ⟨Inflection.singular, Inflection.plural⟩

end Lateral
