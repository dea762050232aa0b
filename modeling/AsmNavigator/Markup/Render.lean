import AsmNavigator.Markup.Style
import AsmNavigator.Text.Picture

/-!
# Text with markup

Tags in square brackets open and close styles; a backslash in front of a tag makes it plain
text. Where no styles are shown, the tags vanish and the text between them stays, with
pictures for their names. A tag that closes nothing is a flaw.
-/

namespace AsmNavigator.Markup

open Text

/-- A tag: a name, and what follows an equals sign. -/
structure Tag where
  name : String
  parameters? : Option String
  deriving DecidableEq, Repr

def Tag.text (tag : Tag) : String :=
  match tag.parameters? with
  | none => "[" ++ tag.name ++ "]"
  | some parameters => "[" ++ tag.name ++ "=" ++ parameters ++ "]"

def Tag.ofInner (inner : List Char) : Tag :=
  let name := inner.takeWhile (· != '=')
  { name := String.ofList name
    parameters? :=
      if name.length < inner.length then some (String.ofList (inner.drop (name.length + 1)))
      else none }

inductive Piece where
  /-- Text outside of tags. -/
  | plain (cs : List Char)
  /-- Backslashes, and tags that they make plain. -/
  | literal (cs : List Char)
  /-- A tag with the place where it begins. -/
  | tag (position : Nat) (tag : Tag)
  deriving DecidableEq, Repr

def consPlain (c : Char) : List Piece → List Piece
  | .plain cs :: rest => .plain (c :: cs) :: rest
  | pieces => .plain [c] :: pieces

def beginsTag (c : Char) : Bool := ('a' ≤ c && c ≤ 'z') || c == '#' || c == '/' || c == '@'

/-- What stands between the brackets of a tag with which a text begins. -/
def inner? : List Char → Option (List Char)
  | '[' :: c :: rest =>
      let more := rest.takeWhile fun c => c != '[' && c != ']'
      if beginsTag c && (rest.drop more.length).head? == some ']' then some (c :: more) else none
  | _ => none

/-- The pieces of a tag with the backslashes in front of it. -/
def taggedPieces (position slashes : Nat) (inner : List Char) : List Piece :=
  let kept := if slashes / 2 = 0 then [] else [Piece.literal (List.replicate (slashes / 2) '\\')]
  if slashes % 2 = 1 then kept ++ [.literal ('[' :: inner ++ [']'])]
  else kept ++ [.tag (position + slashes) (.ofInner inner)]

/-- The pieces of a text from a position on, after characters that are to be skipped. -/
def piecesFrom : Nat → Nat → List Char → List Piece
  | _, _, [] => []
  | position, skip + 1, _ :: rest => piecesFrom (position + 1) skip rest
  | position, 0, c :: rest =>
      let slashes := ((c :: rest).takeWhile (· == '\\')).length
      match inner? ((c :: rest).drop slashes) with
      | some inner =>
          taggedPieces position slashes inner ++
            piecesFrom (position + 1) (slashes + inner.length + 1) rest
      | none => consPlain c (piecesFrom (position + 1) 0 rest)

def pieces (s : String) : List Piece := piecesFrom 0 0 s.toList

inductive Flaw where
  /-- A tag closes a style that is not open. -/
  | unmatched (tag : Tag) (position : Nat)
  /-- A tag closes the latest style, and none is open. -/
  | nothingOpen (position : Nat)
  deriving DecidableEq, Repr

def Flaw.message : Flaw → String
  | .unmatched tag position =>
      s!"closing tag '{tag.text}' at position {position} doesn't match any open tag"
  | .nothingOpen position => s!"closing tag '[/]' at position {position} has nothing to close"

/-- The styles that are open after a tag, the latest first. -/
def afterTag (opened : List String) (position : Nat) (tag : Tag) : Except Flaw (List String) :=
  match tag.name.toList with
  | '/' :: closed =>
      let name := trim (String.ofList closed)
      if name = "" then
        match opened with
        | [] => .error (.nothingOpen position)
        | _ :: rest => .ok rest
      else if opened.contains (normalForm name) then .ok (opened.erase (normalForm name))
      else .error (.unmatched tag position)
  | _ => .ok (normalForm tag.name :: opened)

/-- A bracket behind a backslash is a bracket. -/
def plainBrackets : List Char → List Char
  | '\\' :: '[' :: rest => '[' :: plainBrackets rest
  | c :: rest => c :: plainBrackets rest
  | [] => []

/-- Characters that move the cursor of a terminal are left out. -/
def isControl (c : Char) : Bool :=
  let n := c.toNat
  n == 7 || n == 8 || n == 11 || n == 12 || n == 13

def shownText (cs : List Char) : List Char :=
  (withPictures (plainBrackets cs)).filter fun c => !isControl c

def renderFrom : List String → List Piece → Except Flaw (List Char)
  | _, [] => .ok []
  | opened, .plain cs :: rest | opened, .literal cs :: rest => do
      return shownText cs ++ (← renderFrom opened rest)
  | opened, .tag position tag :: rest => do renderFrom (← afterTag opened position tag) rest

def render (s : String) : Except Flaw String := do
  if s.toList.contains '[' then return String.ofList (← renderFrom [] (pieces s))
  else return String.ofList ((withPictures s.toList).filter fun c => !isControl c)

end AsmNavigator.Markup
