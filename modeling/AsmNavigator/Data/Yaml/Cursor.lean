/-!
# Places in a document

A cursor is what is left of the document together with the line and column that were
reached. Columns count characters; a byte order mark takes none.
-/

namespace AsmNavigator.Yaml

def isBreak (c : Char) : Bool :=
  c == '\n' || c == '\x85' || c == '\u2028' || c == '\u2029'

def endsLine : Option Char → Bool
  | none => true
  | some c => isBreak c

def endsWord : Option Char → Bool
  | none => true
  | some c => isBreak c || c == ' ' || c == '\t'

structure Cursor where
  rest : List Char
  index : Nat
  line : Nat
  column : Nat

namespace Cursor

def start (cs : List Char) : Cursor := ⟨cs, 0, 0, 0⟩

def peek (c : Cursor) : Option Char := c.rest.head?

def peekAt (c : Cursor) (n : Nat) : Option Char := c.rest[n]?

def next (c : Cursor) : Cursor :=
  match c.rest with
  | [] => c
  | x :: rest =>
      if isBreak x then ⟨rest, c.index + 1, c.line + 1, 0⟩
      else if x == '\uFEFF' then ⟨rest, c.index + 1, c.line, c.column⟩
      else ⟨rest, c.index + 1, c.line, c.column + 1⟩

def advance (c : Cursor) : Nat → Cursor
  | 0 => c
  | n + 1 => c.next.advance n

def takeWhile (c : Cursor) (p : Char → Bool) : List Char × Cursor :=
  let run := c.rest.takeWhile p
  (run, c.advance run.length)

def skipWhile (c : Cursor) (p : Char → Bool) : Cursor := (c.takeWhile p).2

def skipSpaces (c : Cursor) : Cursor := c.skipWhile (· == ' ')

def skipLine (c : Cursor) : Cursor := c.skipWhile fun x => !isBreak x

/-- A line end as content, and the place behind it. -/
def lineBreak? (c : Cursor) : Option (Char × Cursor) :=
  match c.peek with
  | some x =>
      if x == '\n' || x == '\x85' then some ('\n', c.next)
      else if x == '\u2028' || x == '\u2029' then some (x, c.next)
      else none
  | none => none

/-- Whether a line that separates documents begins here. -/
def atMarker (c : Cursor) (marker : Char) : Bool :=
  [marker, marker, marker].isPrefixOf c.rest && endsWord (c.peekAt 3)

def atSeparator (c : Cursor) : Bool := c.atMarker '-' || c.atMarker '.'

end Cursor

end AsmNavigator.Yaml
