/-!
# Texts with lone surrogates

Half of a UTF-16 pair is no character, yet an escape can name it. A text is kept as a
string in which each of them has one of the last 2048 characters as its stand-in. A
character of that range itself, or the one before it, is kept as a pair behind a mark, so
that no two texts are kept in the same way. A text with surrogates can be shown and
compared, but not encoded.

Names of files and all texts of values are kept so; the lines of files and of the input
are characters as they stand.
-/

namespace AsmNavigator.Text

def firstSurrogate : Nat := 0xD800

def surrogateCount : Nat := 0x800

/-- The code point of the stand-in for the first surrogate. -/
def surrogateBase : Nat := 0x10F800

def isSurrogate (unit : Nat) : Bool :=
  firstSurrogate ≤ unit && unit < firstSurrogate + surrogateCount

/-- The code point of the mark, which comes right before the stand-ins. -/
def markCode : Nat := surrogateBase - 1

def mark : Char := Char.ofNat markCode

/-- How far below a character that needs the mark its companion behind the mark lies. -/
def markShift : Nat := surrogateCount + 1

/-- The characters as which a code point is kept. -/
def charsOfCode (code : Nat) : List Char :=
  if isSurrogate code then [Char.ofNat (surrogateBase + (code - firstSurrogate))]
  else if markCode ≤ code then [mark, Char.ofNat (code - markShift)]
  else [Char.ofNat code]

def surrogate? (c : Char) : Option Nat :=
  if surrogateBase ≤ c.toNat && c.toNat < surrogateBase + surrogateCount then
    some (firstSurrogate + (c.toNat - surrogateBase))
  else none

def holdsSurrogate (s : String) : Bool := s.toList.any fun c => (surrogate? c).isSome

def isCompanion (c : Char) : Bool := markCode ≤ c.toNat + markShift && c.toNat < markCode

/-- The code points of a text, from the characters as which it is kept. -/
def codePoints : List Char → List Nat
  | [] => []
  | [c] => [(surrogate? c).getD c.toNat]
  | c :: d :: rest =>
      if c = mark && isCompanion d then (d.toNat + markShift) :: codePoints rest
      else (surrogate? c).getD c.toNat :: codePoints (d :: rest)

/-- Characters as they stand, made a text. -/
def kept (s : String) : String := String.ofList (s.toList.flatMap fun c => charsOfCode c.toNat)

/-- The code points of a text as characters, the replacement character for a surrogate. -/
def characters (s : String) : String :=
  String.ofList ((codePoints s.toList).map fun code =>
    if isSurrogate code then '\uFFFD' else Char.ofNat code)

/-- A run of surrogates in a text: its place and its members. -/
structure SurrogateRun where
  position : Nat
  units : List Nat
  deriving DecidableEq, Repr

namespace SurrogateRun

/-- The first run in a text, from the first surrogate on that `passes` does not let by. -/
def first? (passes : Nat → Bool) (s : String) : Option SurrogateRun :=
  let codes := codePoints s.toList
  let free := codes.takeWhile fun code => !isSurrogate code || passes code
  let units := (codes.drop free.length).takeWhile isSurrogate
  if units.isEmpty then none else some ⟨free.length, units⟩

def inText? (s : String) : Option SurrogateRun := first? (fun _ => false) s

/-- The surrogates that stand for single bytes in file names. -/
def isByte (unit : Nat) : Bool := 0xDC80 ≤ unit && unit ≤ 0xDCFF

def inFileName? (s : String) : Option SurrogateRun := first? isByte s

end SurrogateRun

/-- What a character adds to the length of a file name in bytes. A surrogate stands for a
single byte there, and of a pair only the second character counts. -/
def nameBytes (c : Char) : Nat :=
  if c = mark then 0 else if (surrogate? c).isSome then 1 else c.utf8Size

def charsSize : List Char → Nat
  | [] => 0
  | c :: rest => nameBytes c + charsSize rest

def nameSize (s : String) : Nat := charsSize s.toList

end AsmNavigator.Text
