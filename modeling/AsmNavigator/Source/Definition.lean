import AsmNavigator.Source.Identifier
import AsmNavigator.Text.WordChar

/-!
# The line that defines a given name

Where the declarations of a file ask which name a line defines, these matchers are told
the name, which can be any text, and look for it. A procedure's name has to end at a
word boundary.
-/

namespace AsmNavigator.Source

open Text

/-- The texts that remain after one or more of the leading blanks, most blanks first. -/
def blankTails : List Char → List (List Char)
  | [] => []
  | c :: rest => if isBlank c then blankTails rest ++ [rest] else []

/-- Whether a word begins or ends between a text and what follows it. -/
def isBoundary (before after : List Char) : Bool :=
  before.getLast?.any isWordChar != after.head?.any isWordChar

def afterWord? (name cs : List Char) : Option (List Char) :=
  (dropPrefix? name cs).filter (isBoundary name)

def definesProcedure? (name line : List Char) : Option (List Char) :=
  let body := skipOptionalBlanks line
  ((dropPrefix? "proc".toList (afterPublic body)).bind fun rest =>
      (blankTails rest).findSome? (afterWord? name)).or
    ((dropPrefix? "export.".toList body).bind (afterWord? name))

def definesConstant? (name line : List Char) : Option (List Char) :=
  (dropPrefix? "const".toList (afterPublic (skipOptionalBlanks line))).bind fun rest =>
    (blankTails rest).findSome? fun cs =>
      (dropPrefix? name cs).bind fun rest => dropPrefix? ['='] (skipOptionalBlanks rest)

inductive SymbolKind where
  | procedure
  | constant
  deriving DecidableEq, Repr

def defines? : SymbolKind → List Char → List Char → Option (List Char)
  | .procedure => definesProcedure?
  | .constant => definesConstant?

def definitionLength? (kind : SymbolKind) (name line : String) : Option Nat :=
  (defines? kind name.toList line.toList).map (line.length - ·.length)

def isDefinition (kind : SymbolKind) (name line : String) : Bool :=
  (defines? kind name.toList line.toList).isSome

end AsmNavigator.Source
