import AsmNavigator.Text.CellWidth
import AsmNavigator.Text.Lines
import AsmNavigator.Text.Words

/-!
# Tables

The columns of a table are as wide as their widest line, four blanks apart. If the page has
not enough room, the widest columns give way first. A cell breaks between words, and a word
that does not fit ends in an ellipsis.
-/

namespace AsmNavigator.CommandLine.Table

open Text

/-! ## Lines of a cell -/

/-- Tabs become blanks up to the next eighth cell. The text before the next tab is kept in reverse,
with the number of cells before it. -/
def expandTabsFrom (before : Nat) (part : List Char) : List Char → List Char
  | [] => part.reverse
  | c :: rest =>
      if c = '\t' then
        let part := ' ' :: part
        let cells := before + cellLength part.reverse
        let missing := (8 - cells % 8) % 8
        part.reverse ++ List.replicate missing ' ' ++ expandTabsFrom (cells + missing) [] rest
      else expandTabsFrom before (c :: part) rest

def expandTabs (cs : List Char) : List Char := expandTabsFrom 0 [] cs

def trimRight (cs : List Char) : List Char := (cs.reverse.dropWhile isBlank).reverse

/-- Distributes words over lines. The line so far is `line`, of `used` cells. -/
def fillLines (width used : Nat) (line : List Char) : List (List Char) → List (List Char)
  | [] => [line]
  | word :: rest =>
      if line.isEmpty || cellLength (trimRight word) + used ≤ width then
        fillLines width (used + cellLength word) (line ++ word) rest
      else line :: fillLines width (cellLength word) word rest

def wrap (width : Nat) (cs : List Char) : List (List Char) :=
  match spacedWords cs with
  | [] => [cs]
  | words => fillLines width 0 [] words

/-- A line without the blanks at its end that are beyond the width. -/
def dropExcess (width : Nat) (line : List Char) : List Char :=
  let blanks := line.length - (trimRight line).length
  line.take (line.length - min blanks (line.length - width))

def fit (width : Nat) (line : List Char) : List Char :=
  let length := cellLength line
  if width < length then takeCells (width - 1) line ++ ['…']
  else line ++ List.replicate (width - length) ' '

def cellLines (width : Nat) (cell : String) : List (List Char) :=
  (splitOn '\n' cell.toList).flatMap fun line =>
    (wrap width (expandTabs line)).map fun line => fit width (dropExcess width line)

/-! ## Widths of columns -/

def padding : Nat := 2

/-- The blanks that belong to a column; there are none at the edges of the table. -/
def blanksOf (count column : Nat) : Nat :=
  (if column = 0 then 0 else padding) + (if column + 1 = count then 0 else padding)

def contentWidth (cell : String) : Nat :=
  ((wideLines cell.toList).map cellLength).foldl max 0

/-- The width that the cells of a column ask for, its blanks included. -/
def columnWidth (room blanks : Nat) (cells : List String) : Nat :=
  let width := (cells.map fun cell => min room (contentWidth cell + blanks)).foldl max 0
  max width 1

/-- A quotient to the nearest integer, a half to the even one. -/
def roundedQuotient (n d : Nat) : Nat :=
  let q := n / d
  if 2 * (n % d) < d then q
  else if d < 2 * (n % d) then q + 1
  else q + q % 2

/-- Takes `excess` off the columns of a width, evenly and at most `limit` off each; `count` of them
are still to come. -/
def takeOff (widest limit : Nat) : Nat → Nat → List Nat → List Nat
  | _, _, [] => []
  | excess, count, width :: rest =>
      if width = widest && count ≠ 0 then
        let part := min limit (roundedQuotient excess count)
        (width - part) :: takeOff widest limit (excess - part) (count - 1) rest
      else width :: takeOff widest limit excess count rest

def total (widths : List Nat) : Nat := widths.foldl (· + ·) 0

/-- Makes columns fit into the room: the widest ones shrink to the next in width, and so on. -/
def shrinkWithin : Nat → Nat → List Nat → List Nat
  | 0, _, widths => widths
  | rounds + 1, room, widths =>
      let excess := total widths - room
      let widest := widths.foldl max 0
      let next := (widths.filter (· ≠ widest)).foldl max 0
      if excess = 0 || widest = next then widths
      else
        shrinkWithin rounds room
          (takeOff widest (min excess (widest - next)) excess (widths.count widest) widths)

/-- Every round takes a cell off a column at least. -/
def shrink (room : Nat) (widths : List Nat) : List Nat := shrinkWithin (total widths) room widths

/-! ## The whole table -/

def rowLines (widths : List Nat) (row : List String) : List String :=
  let cells := (widths.zip row).map fun (width, cell) => (width, cellLines width cell)
  let height := (cells.map fun cell => cell.2.length).foldl max 0
  (List.range height).map fun i =>
    String.ofList ((List.replicate (2 * padding) ' ').intercalate
      (cells.map fun (width, lines) => lines[i]?.getD (List.replicate width ' ')))

def widths (room : Nat) (columns : List (List String)) : List Nat :=
  let count := columns.length
  let full := columns.zipIdx.map fun (cells, column) =>
    columnWidth room (blanksOf count column) cells
  (shrink room full).zipIdx.map fun (width, column) => width - blanksOf count column

def rowsOf (columns : List (List String)) : List (List String) :=
  (List.range ((columns.map List.length).foldl max 0)).map fun i =>
    columns.map fun cells => cells[i]?.getD ""

def lines (room : Nat) (columns : List (List String)) : List String :=
  (rowsOf columns).flatMap (rowLines (widths room columns))

end AsmNavigator.CommandLine.Table
