import AsmNavigator.Source.Identifier

/-!
# The word under the cursor

Columns count characters from zero. A cursor just past a word still belongs to it.
-/

namespace AsmNavigator.Source

structure Word where
  text : String
  start : Nat
  deriving DecidableEq, Repr

namespace Word

def stop (w : Word) : Nat := w.start + w.text.length

def before (w : Word) (line : String) : String := String.ofList (line.toList.take w.start)

def upTo (w : Word) (line : String) : String := String.ofList (line.toList.take w.stop)

end Word

/-- The words from a position on. The second argument is the start of the word that is being
read and its characters so far in reverse. -/
def wordsFrom : Nat → Option (Nat × List Char) → List Char → List Word
  | _, none, [] => []
  | _, some (start, read), [] => [⟨String.ofList read.reverse, start⟩]
  | position, none, c :: rest =>
      wordsFrom (position + 1) (if isIdentStart c then some (position, [c]) else none) rest
  | position, some (start, read), c :: rest =>
      if isIdentChar c then wordsFrom (position + 1) (some (start, c :: read)) rest
      else ⟨String.ofList read.reverse, start⟩ :: wordsFrom (position + 1) none rest

def words (line : String) : List Word := wordsFrom 0 none line.toList

/-- The first of some words that a column touches. A word behind the column ends the search. -/
def firstTouching? (column : Int) : List Word → Option Word
  | [] => none
  | w :: rest =>
      if w.start ≤ column && column ≤ w.stop then some w
      else if column < w.start then none
      else firstTouching? column rest

def wordAt (line : String) (column : Int) : Option Word := firstTouching? column (words line)

/-- Whether a text puts what follows it into a comment or an open string. -/
def isExcluded (before : String) : Bool :=
  before.toList.contains '#' || before.toList.count '"' % 2 == 1

end AsmNavigator.Source
