import AsmNavigator.Text.Split

/-!
# Lines

A text is cut at line feeds, and every line loses the carriage returns at its end. A
text that comes from disk has all its line ends written as line feeds first.
-/

namespace AsmNavigator.Text

/-- Writes every line end, the pair of carriage return and line feed included, as a line feed. -/
def foldLineEnds : List Char → List Char
  | [] => []
  | '\r' :: '\n' :: rest => '\n' :: foldLineEnds rest
  | '\r' :: rest => '\n' :: foldLineEnds rest
  | c :: rest => c :: foldLineEnds rest

def dropReturns (line : List Char) : List Char :=
  (line.reverse.dropWhile (· == '\r')).reverse

/-- The lines of a text; an empty text has one empty line. -/
def lines (cs : List Char) : List String :=
  (splitOn '\n' cs).map fun line => String.ofList (dropReturns line)

def diskLines (s : String) : List String :=
  lines (foldLineEnds s.toList)

def bufferLines (s : String) : List String :=
  lines s.toList

/-- The characters that end a line in the widest sense. -/
def endsLine (c : Char) : Bool :=
  let n := c.toNat
  (0xA ≤ n && n ≤ 0xD) || (0x1C ≤ n && n ≤ 0x1E) || n == 0x85 || n == 0x2028 || n == 0x2029

/-- The lines of a text, cut at every line end in the widest sense. A line end at the end
of the text begins no further line. -/
def wideLines : List Char → List (List Char)
  | [] => []
  | '\r' :: '\n' :: rest => [] :: wideLines rest
  | c :: rest =>
      if endsLine c then [] :: wideLines rest
      else
        match wideLines rest with
        | [] => [[c]]
        | line :: more => (c :: line) :: more

end AsmNavigator.Text
