import AsmNavigator.Data.Yaml.Cursor
import AsmNavigator.Data.Yaml.Fault

/-!
# Texts in a document

Plain, quoted and block texts. A line end inside a plain or quoted text counts as a
blank, and further empty lines count as line ends.
-/

namespace AsmNavigator.Yaml

abbrev Scanned := Except Fault (List Char × Cursor)

/-- The content of a line end, given the line ends that follow it at once. -/
def foldBreak (first : Char) (more : List Char) : List Char :=
  if first ≠ '\n' then first :: more
  else if more.isEmpty then [' ']
  else more

/-! ## Quoted texts -/

def quotedBreaks : Nat → Cursor → Scanned
  | 0, _ => .error .malformed
  | fuel + 1, c =>
      if c.atSeparator then .error .malformed
      else
        let c := c.skipWhile fun x => x == ' ' || x == '\t'
        match c.lineBreak? with
        | some (x, c) => do
            let (more, c) ← quotedBreaks fuel c
            .ok (x :: more, c)
        | none => .ok ([], c)

def quotedBlanks (c : Cursor) : Scanned :=
  let (blanks, c) := c.takeWhile fun x => x == ' ' || x == '\t'
  if c.peek.isNone then .error .unfinished
  else
    match c.lineBreak? with
    | some (x, c) => do
        let (more, c) ← quotedBreaks (c.rest.length + 1) c
        .ok (foldBreak x more, c)
    | none => .ok (blanks, c)

def escapes : List (Char × Char) :=
  [('0', '\x00'), ('a', '\x07'), ('b', '\x08'), ('t', '\t'), ('\t', '\t'), ('n', '\n'),
   ('v', '\x0b'), ('f', '\x0c'), ('r', '\r'), ('e', '\x1b'), (' ', ' '), ('"', '"'),
   ('\\', '\\'), ('/', '/'), ('N', '\x85'), ('_', '\xa0'), ('L', '\u2028'), ('P', '\u2029')]

/-- How many hexadecimal digits follow an escape letter. -/
def escapeWidth? : Char → Option Nat
  | 'x' => some 2
  | 'u' => some 4
  | 'U' => some 8
  | _ => none

def hexValue? (c : Char) : Option Nat :=
  if '0' ≤ c && c ≤ '9' then some (c.toNat - 48)
  else if 'a' ≤ c && c ≤ 'f' then some (c.toNat - 87)
  else if 'A' ≤ c && c ≤ 'F' then some (c.toNat - 55)
  else none

def hexNumber? (digits : List Char) : Option Nat :=
  digits.foldl (fun n? c => do return 16 * (← n?) + (← hexValue? c)) (some 0)

/-- What a number in an escape denotes, as it is kept. Numbers beyond the code points are
refused, in another way if they do not even fit a machine word. -/
def escapedCode (n : Nat) : Except Fault (List Char) :=
  if n < 0x110000 then .ok (Text.charsOfCode n)
  else if n < 0x80000000 then .error (.value "chr() arg not in range(0x110000)")
  else .error (.overflow "Python int too large to convert to C int")

/-- What an escape stands for, from the letter after the backslash on. -/
def escape (c : Cursor) : Scanned :=
  match c.peek with
  | none => .error .unfinished
  | some letter =>
      match escapes.lookup letter, escapeWidth? letter, c.lineBreak? with
      | some x, _, _ => .ok ([x], c.next)
      | none, some width, _ =>
          let digits := c.next.rest.take width
          match hexNumber? digits with
          | some n =>
              if digits.length < width then .error .unfinished
              else (escapedCode n).map fun cs => (cs, c.next.advance width)
          | none => .error .malformed
      | none, none, some (_, c) => quotedBreaks (c.rest.length + 1) c
      | none, none, none => .error .malformed

def isQuotable (c : Char) : Bool :=
  !(c == '"' || c.toNat == 39 || c == '\\' || c == ' ' || c == '\t' || isBreak c)

/-- The rest of a quoted text after its opening quote, as it is kept. -/
def quotedRest (quote : Char) : Nat → Cursor → Scanned
  | 0, _ => .error .malformed
  | fuel + 1, c =>
      match c.peek with
      | none => .error .unfinished
      | some x =>
          if x == quote then
            if quote != '"' && c.peekAt 1 == some quote then do
              let (more, c) ← quotedRest quote fuel (c.advance 2)
              .ok (quote :: more, c)
            else .ok ([], c.next)
          else if quote == '"' && x == '\\' then do
            let (content, c) ← escape c.next
            let (more, c) ← quotedRest quote fuel c
            .ok (content ++ more, c)
          else if isQuotable x || x == '"' || x == '\\' || x.toNat == 39 then do
            let (more, c) ← quotedRest quote fuel c.next
            .ok (Text.charsOfCode x.toNat ++ more, c)
          else do
            let (blanks, c) ← quotedBlanks c
            let (more, c) ← quotedRest quote fuel c
            .ok (blanks ++ more, c)

def quotedText (quote : Char) (c : Cursor) : Scanned :=
  quotedRest quote (c.rest.length + 1) c.next

/-! ## Plain texts -/

/-- Whether a character delimits collections in brackets. -/
def isFlowIndicator (c : Char) : Bool :=
  c == ',' || c == '[' || c == ']' || c == '\x7b' || c == '\x7d'

/-- Whether a plain word ends in front of a character, given the one after it. -/
def endsPlain (inFlow : Bool) (c : Char) (after : Option Char) : Bool :=
  isBreak c || c == ' ' || c == '\t' ||
    (c == ':' && (endsWord after || (inFlow && after.any isFlowIndicator))) ||
    (inFlow && (isFlowIndicator c || c == '?'))

def plainWord (inFlow : Bool) : List Char → List Char
  | [] => []
  | c :: rest => if endsPlain inFlow c rest.head? then [] else c :: plainWord inFlow rest

/-- The empty lines inside a plain text; nothing if documents are separated there. -/
def plainBreaks : Nat → Cursor → Option (List Char) × Cursor
  | 0, c => (none, c)
  | fuel + 1, c =>
      let c := c.skipSpaces
      match c.lineBreak? with
      | some (x, c) =>
          if c.atSeparator then (none, c)
          else
            let (more?, c) := plainBreaks fuel c
            (more?.map (x :: ·), c)
      | none => (some [], c)

/-- What lies between two words of a plain text, the place behind it, and whether a line
end was among it. -/
structure PlainGap where
  content : List Char
  after : Cursor
  broken : Bool

def plainGap (c : Cursor) : PlainGap :=
  let (blanks, c) := c.takeWhile (· == ' ')
  match c.lineBreak? with
  | some (x, c) =>
      if c.atSeparator then ⟨[], c, true⟩
      else
        match plainBreaks (c.rest.length + 1) c with
        | (some more, c) => ⟨foldBreak x more, c, true⟩
        | (none, c) => ⟨[], c, true⟩
  | none => ⟨blanks, c, false⟩

/-- A plain text, the place behind it, and whether it ends with a line end. -/
structure PlainText where
  content : List Char
  after : Cursor
  broken : Bool

/-- The words of a plain text from a place on, the first after `gap`. Outside brackets the
text ends at a line that is indented less than `indent`. -/
def plainFrom (inFlow : Bool) (indent : Int) : Nat → List Char → Cursor → Bool → PlainText
  | 0, _, c, broken => ⟨[], c, broken⟩
  | fuel + 1, gap, c, broken =>
      if c.peek == some '#' then ⟨[], c, broken⟩
      else
        let word := plainWord inFlow c.rest
        if word.isEmpty then ⟨[], c, broken⟩
        else
          let next := plainGap (c.advance word.length)
          if next.content.isEmpty || next.after.peek == some '#' ||
              (!inFlow && next.after.column < indent) then
            ⟨gap ++ word, next.after, next.broken⟩
          else
            let more := plainFrom inFlow indent fuel next.content next.after next.broken
            { more with content := gap ++ word ++ more.content }

def plainText (inFlow : Bool) (indent : Int) (c : Cursor) : PlainText :=
  plainFrom inFlow indent (c.rest.length + 1) [] c false

/-! ## Block texts -/

/-- What becomes of the line ends at the end of a block. -/
inductive Chomping where
  | clip
  | strip
  | keep
  deriving DecidableEq

structure BlockHeader where
  chomping : Chomping
  indent? : Option Nat

def chomping? : Option Char → Option Chomping
  | some '+' => some .keep
  | some '-' => some .strip
  | _ => none

def indentDigit? (c? : Option Char) : Option Nat :=
  c?.bind fun c => if c.isDigit then some (c.toNat - 48) else none

/-- Chomping and indentation of a block, in either order. -/
def blockHeader (c : Cursor) : Except Fault (BlockHeader × Cursor) := do
  let (header, c) : BlockHeader × Cursor :=
    match chomping? c.peek with
    | some chomping =>
        match indentDigit? c.next.peek with
        | some n => (⟨chomping, some n⟩, c.advance 2)
        | none => (⟨chomping, none⟩, c.next)
    | none =>
        match indentDigit? c.peek with
        | some n =>
            match chomping? c.next.peek with
            | some chomping => (⟨chomping, some n⟩, c.advance 2)
            | none => (⟨.clip, some n⟩, c.next)
        | none => (⟨.clip, none⟩, c)
  if header.indent? = some 0 then .error .malformed
  else if endsLine c.peek || c.peek == some ' ' then .ok (header, c)
  else .error .malformed

/-- The rest of a line that holds blanks and a comment at most. -/
def ignoredLine (c : Cursor) : Except Fault Cursor :=
  let c := c.skipSpaces
  let c := if c.peek == some '#' then c.skipLine else c
  match c.peek, c.lineBreak? with
  | none, _ => .ok c
  | _, some (_, c) => .ok c
  | _, none => .error .malformed

def skipIndent (indent : Nat) : Nat → Cursor → Cursor
  | 0, c => c
  | fuel + 1, c =>
      if c.column < indent && c.peek == some ' ' then skipIndent indent fuel c.next else c

def blockBreaks (indent : Nat) : Nat → Cursor → List Char × Cursor
  | 0, c => ([], c)
  | fuel + 1, c =>
      let c := skipIndent indent indent c
      match c.lineBreak? with
      | some (x, c) =>
          let (more, c) := blockBreaks indent fuel c
          (x :: more, c)
      | none => ([], c)

/-- The empty lines at the beginning of a block, and the deepest indentation there. -/
def leadingBreaks : Nat → Nat → Cursor → List Char × Nat × Cursor
  | 0, deepest, c => ([], deepest, c)
  | fuel + 1, deepest, c =>
      if c.peek == some ' ' then leadingBreaks fuel (max deepest c.next.column) c.next
      else
        match c.lineBreak? with
        | some (x, c) =>
            let (more, deepest, c) := leadingBreaks fuel deepest c
            (x :: more, deepest, c)
        | none => ([], deepest, c)

def isBlankHead (c : Cursor) : Bool := c.peek == some ' ' || c.peek == some '\t'

/-- The lines of a block from a line on: the content without the last line end, that line
end, the empty lines behind it and the place that is reached. -/
def blockLines (folded : Bool) (indent : Nat) :
    Nat → List Char → Cursor → List Char × List Char × List Char × Cursor
  | 0, breaks, c => ([], [], breaks, c)
  | fuel + 1, breaks, c =>
      if c.column ≠ indent || c.peek.isNone then ([], [], breaks, c)
      else
        let indented := isBlankHead c
        let (line, c) := c.takeWhile fun x => !isBreak x
        let (ending, c) := match c.lineBreak? with
          | some (x, c) => ([x], c)
          | none => ([], c)
        let (following, c) := blockBreaks indent (c.rest.length + 1) c
        if c.column == indent && c.peek.isSome then
          let joint :=
            if folded && ending == ['\n'] && !indented && !isBlankHead c then
              if following.isEmpty then [' '] else []
            else ending
          let (content, last, tail, c) := blockLines folded indent fuel following c
          (breaks ++ line ++ joint ++ content, last, tail, c)
        else (breaks ++ line, ending, following, c)

/-- A block text, inside a collection that is indented by `outer`. -/
def blockText (folded : Bool) (outer : Int) (c : Cursor) : Scanned := do
  let (header, c) ← blockHeader c.next
  let c ← ignoredLine c
  let least := (max (outer + 1) 1).toNat
  let (indent, breaks, c) :=
    match header.indent? with
    | some n =>
        let indent := least + n - 1
        let (breaks, c) := blockBreaks indent (c.rest.length + 1) c
        (indent, breaks, c)
    | none =>
        let (breaks, deepest, c) := leadingBreaks (c.rest.length + 1) 0 c
        (max least deepest, breaks, c)
  let (content, last, tail, c) := blockLines folded indent (c.rest.length + 1) breaks c
  match header.chomping with
  | .strip => .ok (content, c)
  | .clip => .ok (content ++ last, c)
  | .keep => .ok (content ++ last ++ tail, c)

end AsmNavigator.Yaml
