import AsmNavigator.Data.Value
import AsmNavigator.Number.Shortest
import AsmNavigator.Text.Quoted

/-!
# Writing JSON

Two layouts are in use: answers on a terminal have a blank after each separator and
only ASCII characters, lines of the request protocol have neither. A set is written as a
list, and so is a pair.
-/

namespace AsmNavigator.Json

structure Layout where
  itemSeparator : String
  keySeparator : String
  asciiOnly : Bool

/-- Blanks after the separators, everything beyond ASCII escaped. -/
def spaced : Layout := ⟨", ", ": ", true⟩

/-- No blanks, characters as they are. -/
def compact : Layout := ⟨",", ":", false⟩

def unitEscape (unit : Nat) : List Char :=
  '\\' :: 'u' :: Text.hexDigits 4 unit

/-- The escape of a character by its UTF-16 units. -/
def wideEscape (c : Char) : List Char :=
  if c.toNat < 0x10000 then unitEscape c.toNat
  else
    let n := c.toNat - 0x10000
    unitEscape (0xD800 + n / 0x400) ++ unitEscape (0xDC00 + n % 0x400)

def escapeChar (asciiOnly : Bool) (c : Char) : List Char :=
  if c == '"' then ['\\', '"']
  else if c == '\\' then ['\\', '\\']
  else if c == '\n' then ['\\', 'n']
  else if c == '\r' then ['\\', 'r']
  else if c == '\t' then ['\\', 't']
  else if c == '\x08' then ['\\', 'b']
  else if c == '\x0c' then ['\\', 'f']
  else if c.toNat < 0x20 then unitEscape c.toNat
  else if asciiOnly && 0x7F ≤ c.toNat then wideEscape c
  else [c]

/-- A code point between quotes; a surrogate is always escaped. -/
def writeCode (asciiOnly : Bool) (code : Nat) : List Char :=
  if Text.isSurrogate code then unitEscape code else escapeChar asciiOnly (Char.ofNat code)

def writeText (asciiOnly : Bool) (s : String) : String :=
  String.ofList
    ('"' :: (Text.codePoints s.toList).flatMap (writeCode asciiOnly) ++ ['"'])

def writeDouble : Double → String
  | .nan => "NaN"
  | .infinite negative => if negative then "-Infinity" else "Infinity"
  | x => x.toText

def writeScalar (asciiOnly : Bool) : Scalar → String
  | .null => "null"
  | .bool true => "true"
  | .bool false => "false"
  | .int n => toString n
  | .float x => writeDouble x
  | .text s => writeText asciiOnly s
  | .bytes content => writeText asciiOnly (Text.quotedBytes content)
  | .stamp moment => writeText asciiOnly moment.shown

def writeKey (asciiOnly : Bool) : Scalar → String
  | .text s => writeText asciiOnly s
  | key => "\"" ++ writeScalar asciiOnly key ++ "\""

def bracketed (layout : Layout) (items : List String) : String :=
  "[" ++ String.intercalate layout.itemSeparator items ++ "]"

mutual

def write (layout : Layout) : Value → String
  | .scalar s => writeScalar layout.asciiOnly s
  | .list items => bracketed layout (writeItems layout items)
  | .map entries =>
      "\x7b" ++ String.intercalate layout.itemSeparator (writeEntries layout entries) ++ "\x7d"
  | .set members => bracketed layout (members.map (writeScalar layout.asciiOnly))
  | .pair first second => bracketed layout [write layout first, write layout second]
  | .knot _ body => write layout body
  | .link _ => writeScalar layout.asciiOnly .null

def writeItems (layout : Layout) : List Value → List String
  | [] => []
  | item :: rest => write layout item :: writeItems layout rest

def writeEntries (layout : Layout) : List (Scalar × Value) → List String
  | [] => []
  | (key, value) :: rest =>
      (writeKey layout.asciiOnly key ++ layout.keySeparator ++ write layout value) ::
        writeEntries layout rest

end

/-! ## What cannot be encoded -/

def unencodableScalar? : Scalar → Option Text.SurrogateRun
  | .text s => Text.SurrogateRun.inText? s
  | _ => none

mutual

/-- The first surrogates in the texts of a value. -/
def unencodable? : Value → Option Text.SurrogateRun
  | .scalar s => unencodableScalar? s
  | .list items => unencodableItem? items
  | .map entries => unencodableMember? entries
  | .set members => members.findSome? unencodableScalar?
  | .pair first second => (unencodable? first).or (unencodable? second)
  | .knot _ body => unencodable? body
  | .link _ => none

def unencodableItem? : List Value → Option Text.SurrogateRun
  | [] => none
  | item :: rest => (unencodable? item).or (unencodableItem? rest)

def unencodableMember? : List (Scalar × Value) → Option Text.SurrogateRun
  | [] => none
  | (key, value) :: rest =>
      ((unencodableScalar? key).or (unencodable? value)).or (unencodableMember? rest)

end

end AsmNavigator.Json
