import AsmNavigator.Text.Blank
import AsmNavigator.Text.Split

/-!
# Identifiers and keywords

An identifier is made of ASCII letters, digits and underscores and does not begin with a
digit. Constants have capitals only. Reading one takes the longest run.
-/

namespace AsmNavigator.Source

open Text

def isIdentStart (c : Char) : Bool := c.isAlpha || c == '_'

def isIdentChar (c : Char) : Bool := c.isAlphanum || c == '_'

def isConstantStart (c : Char) : Bool := c.isUpper || c == '_'

def isConstantChar (c : Char) : Bool := c.isUpper || c.isDigit || c == '_'

/-- A first character of one class and the longest run of another, with what follows. -/
def takeRun? (start continues : Char → Bool) : List Char → Option (List Char × List Char)
  | [] => none
  | c :: rest =>
      if start c then some (c :: rest.takeWhile continues, rest.dropWhile continues) else none

def takeIdent? : List Char → Option (List Char × List Char) :=
  takeRun? isIdentStart isIdentChar

def skipBlanks? : List Char → Option (List Char)
  | [] => none
  | c :: rest => if isBlank c then some (rest.dropWhile isBlank) else none

def skipOptionalBlanks (cs : List Char) : List Char := cs.dropWhile isBlank

def afterKeyword? (word : String) (cs : List Char) : Option (List Char) :=
  (dropPrefix? word.toList cs).bind skipBlanks?

/-- What follows `pub` and the blanks after it, or the text itself. -/
def afterPublic (cs : List Char) : List Char :=
  (afterKeyword? "pub" cs).getD cs

def IsIdent (name : List Char) : Prop :=
  ∃ c rest, name = c :: rest ∧ isIdentStart c = true ∧ ∀ d ∈ rest, isIdentChar d = true

def isConstantName (name : String) : Bool :=
  match name.toList with
  | [] => false
  | c :: rest => isConstantStart c && rest.all isConstantChar

end AsmNavigator.Source
