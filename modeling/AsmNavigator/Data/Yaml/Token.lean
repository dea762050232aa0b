import AsmNavigator.Data.Yaml.Stream
import AsmNavigator.Data.Yaml.Text
import AsmNavigator.Number.Numeral

/-!
# Tokens of a document

Indentation turns into tokens that open and close block collections. A key is known as
such only when the colon behind it is met, so the place of every possible key is kept
and the tokens that announce it are put in afterwards. A fault ends the scan; the tokens
in front of it count, except for those that might still have become keys.
-/

namespace AsmNavigator.Yaml

/-- How a tag is written: a handle, if there is one, and the rest. -/
structure TagName where
  handle? : Option String
  suffix : String
  deriving DecidableEq

inductive Token where
  | version (major : Nat)
  | tagHandle (handle expansion : String)
  | otherDirective
  | documentStart
  | documentEnd
  | blockSequenceStart
  | blockMappingStart
  | blockEnd
  | flowSequenceStart
  | flowSequenceEnd
  | flowMappingStart
  | flowMappingEnd
  | blockEntry
  | flowEntry
  | key
  | value
  | alias (name : String)
  | anchor (name : String)
  | tag (name : TagName)
  | scalar (text : String) (plain : Bool)
  deriving DecidableEq

structure PossibleKey where
  /-- How many tokens precede it. -/
  position : Nat
  /-- Nothing but a key can stand there. -/
  required : Bool
  index : Nat
  line : Nat
  column : Nat

structure Scanner where
  cursor : Cursor
  /-- The number of open brackets. -/
  flow : Nat
  /-- The column of the innermost block collection. -/
  indent : Int
  outerIndents : List Int
  /-- By number of open brackets. -/
  keys : List (Nat × PossibleKey)
  allowKey : Bool
  tokens : List Token

namespace Scanner

abbrev Step := Except Fault Scanner

def start (cs : List Char) : Scanner :=
  let cursor := Cursor.start cs
  ⟨if cs.head? = some '\uFEFF' then cursor.next else cursor, 0, -1, [], [], true, []⟩

def inFlow (s : Scanner) : Bool := s.flow ≠ 0

def emit (s : Scanner) (token : Token) : Scanner := { s with tokens := s.tokens ++ [token] }

def advance (s : Scanner) (n : Nat) : Scanner := { s with cursor := s.cursor.advance n }

/-- Closes the block collections that are indented deeper than a column. -/
def closeBlocksTo (column : Int) : List Int → Scanner → Scanner
  | [], s => s
  | outer :: rest, s =>
      if column < s.indent then
        closeBlocksTo column rest ({ s with indent := outer, outerIndents := rest }.emit .blockEnd)
      else s

def closeBlocks (s : Scanner) (column : Int) : Scanner :=
  if s.inFlow then s else closeBlocksTo column s.outerIndents s

/-- Opens a block collection at a column, if it is indented deeper than the innermost. -/
def openBlock (s : Scanner) (column : Nat) : Option Scanner :=
  if s.indent < column then
    some { s with indent := column, outerIndents := s.indent :: s.outerIndents }
  else none

/-- Forgets the possible key of the current level. -/
def dropKey (s : Scanner) : Step :=
  match s.keys.lookup s.flow with
  | some key =>
      if key.required then .error .malformed
      else .ok { s with keys := s.keys.filter (·.1 ≠ s.flow) }
  | none => .ok s

def noteKey (s : Scanner) : Step :=
  if s.allowKey then do
    let s ← s.dropKey
    let c := s.cursor
    let key : PossibleKey :=
      ⟨s.tokens.length, !s.inFlow && s.indent = (c.column : Int), c.index, c.line, c.column⟩
    .ok { s with keys := (s.flow, key) :: s.keys }
  else .ok s

/-- The farthest that a colon may be from the beginning of its key. -/
def keyReach : Nat := 1024

def isStale (c : Cursor) (key : PossibleKey) : Bool :=
  key.line ≠ c.line || c.index - key.index > keyReach

/-- Forgets the keys whose colon can no longer come. -/
def dropStaleKeys (s : Scanner) : Step :=
  let (stale, fresh) := s.keys.partition fun entry => isStale s.cursor entry.2
  if stale.any (·.2.required) then .error .malformed else .ok { s with keys := fresh }

/-- Skips blanks, comments and line ends. A key may follow a line end outside brackets. -/
def skipToToken : Nat → Scanner → Scanner
  | 0, s => s
  | fuel + 1, s =>
      let c := s.cursor.skipSpaces
      let c := if c.peek == some '#' then c.skipLine else c
      match c.lineBreak? with
      | some (_, c) => skipToToken fuel { s with cursor := c, allowKey := s.allowKey || !s.inFlow }
      | none => { s with cursor := c }

/-! ## Indicators -/

def closeAll (s : Scanner) : Step := do
  let s ← (s.closeBlocks (-1)).dropKey
  .ok { s with allowKey := false }

def documentMarker (s : Scanner) (token : Token) : Step := do
  .ok ((← s.closeAll).emit token |>.advance 3)

def flowStart (s : Scanner) (token : Token) : Step := do
  let s ← s.noteKey
  .ok ({ s with flow := s.flow + 1, allowKey := true }.emit token |>.advance 1)

def flowEnd (s : Scanner) (token : Token) : Step := do
  let s ← s.dropKey
  .ok ({ s with flow := s.flow - 1, allowKey := false }.emit token |>.advance 1)

def flowEntry (s : Scanner) : Step := do
  let s ← { s with allowKey := true }.dropKey
  .ok (s.emit .flowEntry |>.advance 1)

/-- Opens a block collection at the cursor, where one may begin. -/
def openHere (s : Scanner) (token : Token) : Step :=
  if s.inFlow then .ok s
  else if !s.allowKey then .error .malformed
  else
    match s.openBlock s.cursor.column with
    | some s => .ok (s.emit token)
    | none => .ok s

def blockEntry (s : Scanner) : Step := do
  let s ← s.openHere .blockSequenceStart
  let s ← { s with allowKey := true }.dropKey
  .ok (s.emit .blockEntry |>.advance 1)

def explicitKey (s : Scanner) : Step := do
  let s ← s.openHere .blockMappingStart
  let s ← { s with allowKey := !s.inFlow }.dropKey
  .ok (s.emit .key |>.advance 1)

/-- Puts the tokens in that announce a key. -/
def announceKey (s : Scanner) (key : PossibleKey) : Scanner :=
  let insert (token : Token) (s : Scanner) : Scanner :=
    { s with tokens := s.tokens.insertIdx key.position token }
  let s := insert .key s
  if s.inFlow then s
  else
    match s.openBlock key.column with
    | some s => insert .blockMappingStart s
    | none => s

def mappingValue (s : Scanner) : Step := do
  let s ← match s.keys.lookup s.flow with
    | some key =>
        let s := { s with keys := s.keys.filter (·.1 ≠ s.flow), allowKey := false }
        pure (s.announceKey key)
    | none => do
        let s ← s.openHere .blockMappingStart
        { s with allowKey := !s.inFlow }.dropKey
  .ok (s.emit .value |>.advance 1)

/-! ## Names and tags -/

def isNameChar (c : Char) : Bool := c.isAlphanum || c == '-' || c == '_'

def endsName (c? : Option Char) : Bool :=
  endsWord c? || c?.any fun c => ['?', ':', ',', ']', '\x7d', '%', '@', '\x60'].contains c

def anchorName (c : Cursor) : Scanned :=
  let (name, c) := c.next.takeWhile isNameChar
  if name.isEmpty || !endsName c.peek then .error .malformed else .ok (name, c)

def isUriChar (c : Char) : Bool :=
  c.isAlphanum || c.toNat == 39 ||
    ['-', ';', '/', '?', ':', '@', '&', '=', '+', '$', ',', '_', '.', '!', '~', '*', '(', ')',
      '[', ']', '%'].contains c

def escapedText? (bytes : List UInt8) : Option (List Char) :=
  (String.fromUTF8? (ByteArray.mk bytes.toArray)).map String.toList

/-- A tag with its escapes replaced; those that follow one another form one text. -/
def unescaped? : List UInt8 → List Char → Option (List Char)
  | bytes, [] => escapedText? bytes
  | bytes, '%' :: high :: low :: rest => do
      let code := 16 * (← hexValue? high) + (← hexValue? low)
      unescaped? (bytes ++ [UInt8.ofNat code]) rest
  | _, '%' :: _ => none
  | bytes, c :: rest => return (← escapedText? bytes) ++ c :: (← unescaped? [] rest)

def tagSuffix (c : Cursor) : Scanned :=
  let (suffix, c) := c.takeWhile isUriChar
  if suffix.isEmpty then .error .malformed
  else
    match unescaped? [] suffix with
    | some text => .ok (text, c)
    | none => .error .malformed

def tagHandle (c : Cursor) : Scanned :=
  if c.peek ≠ some '!' then .error .malformed
  else
    let (name, after) := c.next.takeWhile isNameChar
    if after.peek = some '!' then .ok ('!' :: name ++ ['!'], after.next)
    else if c.peekAt 1 = some ' ' then .ok (['!'], after)
    else .error .malformed

/-- Whether another exclamation mark follows in the same word. -/
def hasSecondMark (c : Cursor) : Bool :=
  (c.next.rest.takeWhile fun x => !(x == ' ' || isBreak x)).contains '!'

def tagName (c : Cursor) : Except Fault (TagName × Cursor) := do
  let (name, c) ←
    if c.peekAt 1 = some '<' then do
      let (suffix, c) ← tagSuffix (c.advance 2)
      if c.peek ≠ some '>' then .error .malformed
      pure ((⟨none, String.ofList suffix⟩ : TagName), c.next)
    else if endsWord (c.peekAt 1) then pure (⟨none, "!"⟩, c.next)
    else do
      let (handle, c) ← if hasSecondMark c then tagHandle c else pure (['!'], c.next)
      let (suffix, c) ← tagSuffix c
      pure (⟨some (String.ofList handle), String.ofList suffix⟩, c)
  if endsLine c.peek || c.peek = some ' ' then .ok (name, c) else .error .malformed

/-! ## Directives -/

def directiveNumber (c : Cursor) : Except Fault (Nat × Cursor) :=
  let (digits, c) := c.takeWhile Char.isDigit
  if digits.isEmpty then .error .malformed
  else if digits.length > Numeral.digitLimit then
    .error (.value (Numeral.tooLongMessage digits.length))
  else .ok (Text.decimalNumber digits, c)

def versionDirective (c : Cursor) : Except Fault (Token × Cursor) := do
  let (major, c) ← directiveNumber c.skipSpaces
  if c.peek ≠ some '.' then .error .malformed
  let (_, c) ← directiveNumber c.next
  .ok (.version major, c)

def tagDirective (c : Cursor) : Except Fault (Token × Cursor) := do
  let (handle, c) ← tagHandle c.skipSpaces
  if c.peek ≠ some ' ' then .error .malformed
  let (expansion, c) ← tagSuffix c.skipSpaces
  .ok (.tagHandle (String.ofList handle) (String.ofList expansion), c)

def directive (s : Scanner) : Step := do
  let s ← s.closeAll
  let (name, c) := s.cursor.next.takeWhile isNameChar
  if name.isEmpty || !(endsLine c.peek || c.peek = some ' ') then .error .malformed
  let (token, c) ←
    if name = "YAML".toList then versionDirective c
    else if name = "TAG".toList then tagDirective c
    else pure (.otherDirective, c.skipLine)
  if !(endsLine c.peek || c.peek = some ' ') then .error .malformed
  .ok ({ s with cursor := ← ignoredLine c }.emit token)

/-! ## The main loop -/

/-- A token that may be a key, read by `scan`. -/
def keyLike (s : Scanner) (scan : Cursor → Except Fault (Token × Cursor)) : Step := do
  let s ← s.noteKey
  let (token, c) ← scan s.cursor
  .ok ({ s with cursor := c, allowKey := false }.emit token)

def named (make : String → Token) (scanned : Scanned) : Except Fault (Token × Cursor) :=
  scanned.map fun (name, c) => (make (String.ofList name), c)

def block (s : Scanner) (folded : Bool) : Step := do
  let s ← { s with allowKey := true }.dropKey
  let (text, c) ← blockText folded s.indent s.cursor
  .ok ({ s with cursor := c }.emit (.scalar (Text.kept (String.ofList text)) false))

def plain (s : Scanner) : Step := do
  let s ← s.noteKey
  let text := plainText s.inFlow (s.indent + 1) s.cursor
  .ok ({ s with cursor := text.after, allowKey := text.broken }.emit
    (.scalar (Text.kept (String.ofList text.content)) true))

def isIndicator (c : Char) : Bool :=
  c.toNat == 39 ||
    ['-', '?', ':', ',', '[', ']', '\x7b', '\x7d', '#', '&', '*', '!', '|', '>', '"', '%', '@',
      '\x60'].contains c

def beginsPlain (s : Scanner) (c : Char) : Bool :=
  !(endsWord (some c) || isIndicator c) ||
    (!endsWord (s.cursor.peekAt 1) && (c == '-' || (!s.inFlow && (c == '?' || c == ':'))))

def token (s : Scanner) (c : Char) : Step :=
  let beforeBlank := endsWord (s.cursor.peekAt 1)
  let lineStart := s.cursor.column == 0
  if c == '%' && lineStart then s.directive
  else if c == '-' && lineStart && s.cursor.atMarker '-' then s.documentMarker .documentStart
  else if c == '.' && lineStart && s.cursor.atMarker '.' then s.documentMarker .documentEnd
  else if c == '[' then s.flowStart .flowSequenceStart
  else if c == '\x7b' then s.flowStart .flowMappingStart
  else if c == ']' then s.flowEnd .flowSequenceEnd
  else if c == '\x7d' then s.flowEnd .flowMappingEnd
  else if c == ',' then s.flowEntry
  else if c == '-' && beforeBlank then s.blockEntry
  else if c == '?' && (s.inFlow || beforeBlank) then s.explicitKey
  else if c == ':' && (s.inFlow || beforeBlank) then s.mappingValue
  else if c == '*' then s.keyLike fun c => named .alias (anchorName c)
  else if c == '&' then s.keyLike fun c => named .anchor (anchorName c)
  else if c == '!' then s.keyLike fun c => (tagName c).map fun (name, c) => (.tag name, c)
  else if c == '|' && !s.inFlow then s.block false
  else if c == '>' && !s.inFlow then s.block true
  else if c == '"' || c.toNat == 39 then
    s.keyLike fun cursor => named (.scalar · false) (quotedText c cursor)
  else if s.beginsPlain c then s.plain
  else .error .malformed

/-- Reads one token, with the ends of collections in front of it. -/
def step (s : Scanner) (c : Char) : Step := (s.closeBlocks s.cursor.column).token c

/-- The tokens that nothing can be put in front of any more. -/
def settled (s : Scanner) : List Token :=
  let keys := s.keys.filter fun entry => !isStale s.cursor entry.2
  s.tokens.take ((keys.map fun entry => entry.2.position).foldl min s.tokens.length)

end Scanner

/-- The tokens of a document, up to the fault that ends the scan. -/
structure Scan where
  tokens : List Token
  fault? : Option Fault

namespace Scanner

def broken (s : Scanner) (fault : Fault) : Scan := ⟨s.settled, some fault⟩

/-- The end of a text behind which a fault may lie. -/
def finished (s : Scanner) (behind? : Option Fault) : Scan :=
  match behind?, (s.closeBlocks s.cursor.column).closeAll with
  | some fault, _ => s.broken fault
  | none, .ok s => ⟨s.tokens, none⟩
  | none, .error fault => s.broken fault

/-- Reads tokens to the end of the text. Every token takes at least one character. A token
that reaches the end might go on behind it. -/
def loop (behind? : Option Fault) : Nat → Scanner → Scan
  | 0, s => s.broken .malformed
  | fuel + 1, s =>
      match (skipToToken (s.cursor.rest.length + 1) s).dropStaleKeys with
      | .error fault => s.broken fault
      | .ok ready =>
          match ready.cursor.peek with
          | none => ready.finished behind?
          | some c =>
              match ready.step c with
              | .error .unfinished => s.broken (behind?.getD .unfinished)
              | .error fault => s.broken fault
              | .ok next =>
                  match next.cursor.peek, behind? with
                  | none, some fault => s.broken fault
                  | _, _ => loop behind? fuel next

end Scanner

def Scan.ofStream (stream : Stream) : Scan :=
  Scanner.loop stream.fault? (stream.text.length + 2) (Scanner.start stream.text)

end AsmNavigator.Yaml
