import AsmNavigator.Source.Identifier

/-!
# Declarations

Four kinds of line declare something: imports, re-exports, procedures and constants.
Each recogniser looks at the beginning of a line only, after any blanks, and ignores
what follows the part it needs.
-/

namespace AsmNavigator.Source

open Text

/-- An import `use a::b::c`, possibly with an alias `->d`. -/
structure Import where
  segments : List String
  alias? : Option String
  deriving DecidableEq, Repr

def joinSegments (segments : List String) : String := String.intercalate "::" segments

def splitSegments (expression : String) : List String := split "::" expression

namespace Import

def path (i : Import) : String := joinSegments i.segments

/-- The name under which the module is used when there is no alias. -/
def lastSegment (i : Import) : String := i.segments.getLast?.getD ""

end Import

/-- A re-export `pub use module::declared->exported`. -/
structure Renaming where
  moduleName : String
  declared : String
  exported : String
  deriving DecidableEq, Repr

/-- The first segment of an import may begin with a dollar sign. -/
def isHeadStart (c : Char) : Bool := isIdentStart c || c == '$'

/-- Further segments, each after two colons. The first argument bounds their number. -/
def takeSegments : Nat → List Char → List (List Char) × List Char
  | 0, cs => ([], cs)
  | fuel + 1, cs =>
      match (dropPrefix? [':', ':'] cs).bind takeIdent? with
      | none => ([], cs)
      | some (segment, rest) =>
          let (segments, rest) := takeSegments fuel rest
          (segment :: segments, rest)

/-- The alias after an arrow, with blanks allowed around the arrow. -/
def takeAlias? (cs : List Char) : Option (List Char) :=
  (dropPrefix? ['-', '>'] (skipOptionalBlanks cs)).bind fun rest =>
    (takeIdent? (skipOptionalBlanks rest)).map (·.1)

def import? (line : List Char) : Option Import := do
  let rest ← afterKeyword? "use" (skipOptionalBlanks line)
  let (head, rest) ← takeRun? isHeadStart isIdentChar rest
  let (segments, rest) := takeSegments rest.length rest
  some
    { segments := (head :: segments).map String.ofList
      alias? := (takeAlias? rest).map String.ofList }

def renaming? (line : List Char) : Option Renaming := do
  let rest ← afterKeyword? "use" (afterPublic (skipOptionalBlanks line))
  let (moduleName, rest) ← takeIdent? rest
  let rest ← dropPrefix? [':', ':'] rest
  let (declared, rest) ← takeIdent? rest
  let rest ← dropPrefix? ['-', '>'] rest
  let (exported, _) ← takeIdent? rest
  some ⟨String.ofList moduleName, String.ofList declared, String.ofList exported⟩

def procedureName? (line : List Char) : Option (List Char × List Char) :=
  let body := skipOptionalBlanks line
  ((afterKeyword? "proc" (afterPublic body)).bind takeIdent?).or
    ((dropPrefix? "export.".toList body).bind takeIdent?)

def constantName? (line : List Char) : Option (List Char × List Char) := do
  let rest ← afterKeyword? "const" (afterPublic (skipOptionalBlanks line))
  let (name, rest) ← takeRun? isConstantStart isConstantChar rest
  let rest ← dropPrefix? ['='] (skipOptionalBlanks rest)
  some (name, rest)

end AsmNavigator.Source
