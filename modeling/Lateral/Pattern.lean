import Lateral.Text.CaseMap
import Lateral.Text.Word

/-!
Patterns of text without repetition. A pattern is tried from left to right, the first alternative
that lets the rest match is taken, and letters agree with both of their cases. What the groups took
is kept in their order; a group in an alternative that was not taken leaves nothing.
-/

namespace Lateral

inductive Pattern where
  | done
  /-- One character, in any of its case forms. -/
  | letter (c : Char)
  /-- One of these characters. -/
  | among (cs : List Char)
  /-- Any one character but these. -/
  | except (cs : List Char)
  /-- One character that no form of an ASCII character equals. -/
  | beyondAscii
  | nonWord
  | start
  | finish
  | boundary
  | seq (p q : Pattern)
  | alt (p q : Pattern)
  | group (p : Pattern)
  deriving Repr

namespace Pattern

def word (s : String) : Pattern := s.toList.foldr (fun c p => .seq (.letter c) p) .done

def chain (ps : List Pattern) : Pattern := ps.foldr .seq .done

def choice : List Pattern → Pattern
  | [] => .done
  | [p] => p
  | p :: rest => .alt p (choice rest)

def words (ss : List String) : Pattern := choice (ss.map word)

def optional (p : Pattern) : Pattern := .alt p .done

/-- The long s and the Kelvin sign are case forms of the letters s and k. -/
def caseForms (c : Char) : List Char :=
  c :: (Text.upperChar c ++
    (if c = 's' then [Char.ofNat 0x17F] else if c = 'k' then [Char.ofNat 0x212A] else []))

def agrees (c x : Char) : Bool := (caseForms c).contains x

/-- A place in a text, with the characters before it nearest first. -/
structure Cursor where
  before : List Char
  rest : List Char

def Cursor.next (place : Cursor) : Option (Char × Cursor) :=
  match place.rest with
  | [] => none
  | c :: rest => some (c, ⟨c :: place.before, rest⟩)

def Cursor.since (later earlier : Cursor) : List Char :=
  (later.before.take (later.before.length - earlier.before.length)).reverse

def Cursor.isBoundary (place : Cursor) : Bool :=
  place.before.head?.any Text.isWord != place.rest.head?.any Text.isWord

def Cursor.accept {β : Type} (place : Cursor) (test : Char → Bool) (next : Cursor → Option β) :
    Option β :=
  match place.next with
  | some (c, after) => if test c then next after else none
  | none => none

/-- Matches from a place on and hands the place after the match, with the groups so far, to what
must match next. -/
def run {β : Type} : Pattern → Cursor → List (List Char) →
    (Cursor → List (List Char) → Option β) → Option β
  | .done, place, groups, next => next place groups
  | .letter c, place, groups, next => place.accept (agrees c) (next · groups)
  | .among cs, place, groups, next => place.accept (fun x => cs.any (agrees · x)) (next · groups)
  | .except cs, place, groups, next => place.accept (fun x => !cs.any (agrees · x)) (next · groups)
  | .beyondAscii, place, groups, next =>
    place.accept (fun x => 0x80 ≤ x.toNat && !agrees 's' x && !agrees 'k' x) (next · groups)
  | .nonWord, place, groups, next => place.accept (fun x => !Text.isWord x) (next · groups)
  | .start, place, groups, next => if place.before.isEmpty then next place groups else none
  | .finish, place, groups, next => if place.rest.isEmpty then next place groups else none
  | .boundary, place, groups, next => if place.isBoundary then next place groups else none
  | .seq p q, place, groups, next => p.run place groups fun mid groups => q.run mid groups next
  | .alt p q, place, groups, next =>
    (p.run place groups next).orElse fun _ => q.run place groups next
  | .group p, place, groups, next =>
    p.run place groups fun after groups => next after (groups ++ [after.since place])

structure Found where
  before : List Char
  whole : List Char
  groups : List (List Char)
  after : List Char

def matchAt (p : Pattern) (place : Cursor) : Option Found :=
  p.run place [] fun after groups =>
    some ⟨place.before.reverse, after.since place, groups, after.rest⟩

def findFrom (p : Pattern) : List Char → List Char → Option Found
  | before, [] => p.matchAt ⟨before, []⟩
  | before, c :: rest =>
    (p.matchAt ⟨before, c :: rest⟩).orElse fun _ => p.findFrom (c :: before) rest

def find? (p : Pattern) (s : String) : Option Found := p.findFrom [] s.toList

end Pattern

end Lateral
