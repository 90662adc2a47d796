import Lateral.Bindings

/-!
Texts with open places for variables. A template knows no value of a variable, and the values that
fill its places cannot change what stands between them.
-/

namespace Lateral

inductive Piece where
  | text (s : String)
  /-- The literal of a variable. -/
  | literal (name : String)
  /-- The literal of a variable that counts rows. -/
  | count (name : String)
  deriving DecidableEq, Repr

def Piece.fill (b : Bindings) : Piece → String
  | .text s => s
  | .literal name => b.literal name
  | .count name => b.count name

abbrev Template := List Piece

namespace Template

def text (s : String) : Template := [.text s]

instance : Coe String Template := ⟨text⟩

def join (separator : String) : List Template → Template
  | [] => []
  | [t] => t
  | t :: rest => t ++ text separator ++ join separator rest

def fill (b : Bindings) (t : Template) : String := String.join (t.map (Piece.fill b))

theorem fill_append {b : Bindings} (t u : Template) : fill b (t ++ u) = fill b t ++ fill b u := by
  rw [fill, List.map_append, String.join_append]
  rfl

theorem fill_text {b : Bindings} (s : String) : fill b (text s) = s := by
  simp [fill, text, Piece.fill, String.join_cons]

theorem fill_join {b : Bindings} (separator : String) (ts : List Template) :
    fill b (join separator ts) = String.intercalate separator (ts.map (fill b)) := by
  induction ts with
  | nil => rfl
  | cons t rest ih =>
    cases rest with
    | nil => simp [join]
    | cons u more =>
      simp only [join, fill_append, fill_text, ih]
      simp

end Template

/-- A text that names a variable after a dollar sign, or stands for itself. -/
inductive Argument where
  | fixed (s : String)
  | variable (name : String)
  deriving DecidableEq, Repr

def Argument.ofText (s : String) : Argument :=
  match s.toList with
  | '$' :: name => .variable (String.ofList name)
  | _ => .fixed s

def Argument.literal : Argument → Template
  | .fixed s => Text.quote s
  | .variable name => [.literal name]

def Argument.typed (sqlType : String) (a : Argument) : Template :=
  a.literal ++ Template.text (" :: " ++ sqlType)

def Argument.integer (a : Argument) : Template :=
  let inner : Template := match a with
    | .fixed s => Text.quote s
    | .variable name => [.count name]
  "(" ++ inner ++ ") :: integer"

end Lateral
