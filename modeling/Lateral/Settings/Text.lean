import Lateral.Settings

/-!
Settings from a JSON text. Every reader takes the characters that are left; a scalar of the wrong
kind is read before it is refused, a list or an object is refused at its bracket.
-/

namespace Lateral.Settings

open Json.Reader

def refuse {α : Type} (cs : List Char) : Except ReadFault α :=
  match cs with
  | '[' :: _ | '\x7b' :: _ => .error .shape
  | _ => do
    let _ ← scalar cs
    throw .shape

def limitFrom (cs : List Char) : Except ReadFault (UInt32 × List Char) := do
  match skipBlanks cs with
  | '[' :: _ | '\x7b' :: _ => throw .shape
  | cs =>
    let (value, rest) ← scalar cs
    return (← value.toUInt32, rest)

def textFrom (cs : List Char) : Except ReadFault (String × List Char) :=
  match skipBlanks cs with
  | '"' :: rest => text rest
  | cs => refuse cs

def textsFrom (cs : List Char) : Except ReadFault (List String × List Char) :=
  match skipBlanks cs with
  | '[' :: rest => items textFrom rest
  | cs => refuse cs

/-- An object whose members all have one type. A later member replaces one with the same key. -/
def dictFrom {α : Type} (read : List Char → Except ReadFault (α × List Char)) (cs : List Char) :
    Except ReadFault (Dict String α × List Char) :=
  match skipBlanks cs with
  | '\x7b' :: rest =>
    members (fun (d : Dict String α) key cs => do
      let (a, rest) ← read (← colon cs)
      return (d.insert key a, rest)) {} rest
  | cs => refuse cs

structure Draft where
  defaultLimit : Option UInt32 := none
  fixed : Option (Dict String String) := none
  aliases : Option (Dict String (List String)) := none

def Draft.finish (d : Draft) : Settings :=
  let start : Settings := {}
  { defaultLimit := d.defaultLimit.getD start.defaultLimit
    fixed := d.fixed.getD start.fixed
    aliases := d.aliases.getD start.aliases }

/-- A setting that comes twice is refused at its key. -/
def member (d : Draft) (key : String) (cs : List Char) : Except ReadFault (Draft × List Char) := do
  match key with
  | "default_limit" =>
    if d.defaultLimit.isSome then throw .shape
    let (limit, rest) ← limitFrom (← colon cs)
    return ({ d with defaultLimit := some limit }, rest)
  | "vars" =>
    if d.fixed.isSome then throw .shape
    let (fixed, rest) ← dictFrom textFrom (← colon cs)
    return ({ d with fixed := some fixed }, rest)
  | "aliases" =>
    if d.aliases.isSome then throw .shape
    let (aliases, rest) ← dictFrom textsFrom (← colon cs)
    return ({ d with aliases := some aliases }, rest)
  | _ =>
    let cs ← colon cs
    return (d, ← skip (cs.length + 1) cs)

/-- The settings by position. What is missing at the end keeps its default, and nothing may follow
the last one. -/
def positional (cs : List Char) : Except ReadFault (Draft × List Char) := do
  match skipBlanks cs with
  | [] => throw .truncated
  | ']' :: rest => return ({}, rest)
  | cs =>
    let (limit, rest) ← limitFrom cs
    let d : Draft := { defaultLimit := some limit }
    let (more, rest) ← afterEntry ']' rest
    if !more then return (d, rest)
    let (fixed, rest) ← dictFrom textFrom rest
    let d := { d with fixed := some fixed }
    let (more, rest) ← afterEntry ']' rest
    if !more then return (d, rest)
    let (aliases, rest) ← dictFrom textsFrom rest
    let d := { d with aliases := some aliases }
    match skipBlanks rest with
    | [] => throw .truncated
    | ']' :: rest => return (d, rest)
    | _ => throw .malformed

def draftFrom (cs : List Char) : Except ReadFault (Draft × List Char) :=
  match skipBlanks cs with
  | '[' :: rest => positional rest
  | '\x7b' :: rest => members member {} rest
  | cs => refuse cs

def parse (source : String) : Except ReadFault Settings := do
  let (draft, rest) ← draftFrom source.toList
  finish rest
  return draft.finish

end Lateral.Settings
