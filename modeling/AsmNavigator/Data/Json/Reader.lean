import AsmNavigator.Data.Value
import AsmNavigator.Number.Numeral
import AsmNavigator.Text.Surrogate

/-!
# Reading JSON

The reader takes the standard grammar and also `NaN`, `Infinity` and `-Infinity`. Of a
repeated key the last value stands, in the place of the first. Integers are exact and
may have up to 4300 digits. How deeply collections may be nested is up to the caller: the
limit is what the stack has left. The document is given in the form in which texts are kept.
-/

namespace AsmNavigator.Json

inductive Fault where
  | byteOrderMark
  | expectingValue
  | expectingName
  | expectingColon
  | expectingComma
  | extraData
  | unterminatedText
  | controlCharacter
  | badEscape
  | badUnicodeEscape
  | tooManyDigits (count : Nat)
  | deepArray
  | deepObject
  deriving DecidableEq, Repr

def Fault.message : Fault → String
  | .byteOrderMark => "Unexpected UTF-8 BOM (decode using utf-8-sig)"
  | .expectingValue => "Expecting value"
  | .expectingName => "Expecting property name enclosed in double quotes"
  | .expectingColon => "Expecting ':' delimiter"
  | .expectingComma => "Expecting ',' delimiter"
  | .extraData => "Extra data"
  | .unterminatedText => "Unterminated string starting at"
  | .controlCharacter => "Invalid control character at"
  | .badEscape => "Invalid \\escape"
  | .badUnicodeEscape => "Invalid \\uXXXX escape"
  | .tooManyDigits count => Numeral.tooLongMessage count
  | .deepArray =>
      "maximum recursion depth exceeded while decoding a JSON array from a unicode string"
  | .deepObject =>
      "maximum recursion depth exceeded while decoding a JSON object from a unicode string"

def Fault.isDepth : Fault → Bool
  | .deepArray | .deepObject => true
  | _ => false

/-- The kind of a fault with which the reader gives up; nothing for a malformed text. -/
def Fault.kind? : Fault → Option String
  | .tooManyDigits _ => some "ValueError"
  | .deepArray | .deepObject => some "RecursionError"
  | _ => none

def isSpace (c : Char) : Bool :=
  c == ' ' || c == '\t' || c == '\n' || c == '\r'

def skipSpace (cs : List Char) : List Char :=
  cs.dropWhile isSpace

def hexValue? (c : Char) : Option Nat :=
  if '0' ≤ c && c ≤ '9' then some (c.toNat - 48)
  else if 'a' ≤ c && c ≤ 'f' then some (c.toNat - 87)
  else if 'A' ≤ c && c ≤ 'F' then some (c.toNat - 55)
  else none

def hexQuad? (a b c d : Char) : Option Nat := do
  let a ← hexValue? a
  let b ← hexValue? b
  let c ← hexValue? c
  let d ← hexValue? d
  some (((a * 16 + b) * 16 + c) * 16 + d)

def plainEscape? : Char → Option Char
  | '"' => some '"'
  | '\\' => some '\\'
  | '/' => some '/'
  | 'b' => some '\x08'
  | 'f' => some '\x0c'
  | 'n' => some '\n'
  | 'r' => some '\r'
  | 't' => some '\t'
  | _ => none

def isHighSurrogate (unit : Nat) : Bool := 0xD800 ≤ unit && unit ≤ 0xDBFF

def isLowSurrogate (unit : Nat) : Bool := 0xDC00 ≤ unit && unit ≤ 0xDFFF

/-- After the `u` of an escape: the code point and what follows. A high surrogate takes an
escaped low one along. -/
def unicodeEscape : List Char → Except Fault (Nat × List Char)
  | a :: b :: c :: d :: next :: rest =>
      match hexQuad? a b c d with
      | none => .error .badUnicodeEscape
      | some unit =>
          if isHighSurrogate unit then
            match next, rest with
            | '\\', 'u' :: e :: f :: g :: h :: last :: tail =>
                match hexQuad? e f g h with
                | none => .error .badUnicodeEscape
                | some low =>
                    if isLowSurrogate low then
                      .ok (0x10000 + (unit - 0xD800) * 0x400 + (low - 0xDC00), last :: tail)
                    else .ok (unit, next :: rest)
            | _, _ => .ok (unit, next :: rest)
          else .ok (unit, next :: rest)
  | _ => .error .badUnicodeEscape

/-- The rest of a text after its opening quote, and what follows the closing one. -/
def readText : Nat → List Char → Except Fault (List Char × List Char)
  | 0, _ => .error .unterminatedText
  | _, [] => .error .unterminatedText
  | _, '"' :: rest => .ok ([], rest)
  | _, '\\' :: [] => .error .unterminatedText
  | fuel + 1, '\\' :: 'u' :: rest => do
      let (code, rest) ← unicodeEscape rest
      let (cs, rest) ← readText fuel rest
      .ok (Text.charsOfCode code ++ cs, rest)
  | fuel + 1, '\\' :: letter :: rest =>
      match plainEscape? letter with
      | none => .error .badEscape
      | some c => do
          let (cs, rest) ← readText fuel rest
          .ok (c :: cs, rest)
  | fuel + 1, c :: rest =>
      if c.toNat ≤ 0x1F then .error .controlCharacter
      else do
        let (cs, rest) ← readText fuel rest
        .ok (c :: cs, rest)

def digitsNumber (digits : List Char) : Nat :=
  digits.foldl (fun n c => 10 * n + (c.toNat - 48)) 0

def takeFraction : List Char → List Char × List Char
  | '.' :: rest =>
      let digits := rest.takeWhile Char.isDigit
      if digits.isEmpty then ([], '.' :: rest) else (digits, rest.drop digits.length)
  | rest => ([], rest)

def takeExponent (cs : List Char) : Option Int × List Char :=
  match cs with
  | mark :: rest =>
      if mark == 'e' || mark == 'E' then
        let (negative, unsigned) := match rest with
          | '-' :: tail => (true, tail)
          | '+' :: tail => (false, tail)
          | tail => (false, tail)
        let digits := unsigned.takeWhile Char.isDigit
        if digits.isEmpty then (none, cs)
        else
          let n : Int := digitsNumber digits
          (some (if negative then -n else n), unsigned.drop digits.length)
      else (none, cs)
  | [] => (none, cs)

/-- A number, whose sign has been read already. -/
def readNumber (negative : Bool) (cs : List Char) : Except Fault (Scalar × List Char) :=
  let run := cs.takeWhile Char.isDigit
  let whole := if cs.head? == some '0' then ['0'] else run
  if whole.isEmpty then .error .expectingValue
  else
    let (fraction, rest) := takeFraction (cs.drop whole.length)
    let (exponent?, rest) := takeExponent rest
    if fraction.isEmpty && exponent?.isNone then
      if whole.length > 4300 then .error (.tooManyDigits whole.length)
      else
        let n : Int := digitsNumber whole
        .ok (.int (if negative then -n else n), rest)
    else
      let digits := digitsNumber (whole ++ fraction)
      let exponent := exponent?.getD 0 - fraction.length
      .ok (.float (.ofDecimal negative digits exponent), rest)

def constants : List (String × Scalar) :=
  [("null", .null), ("true", .bool true), ("false", .bool false), ("NaN", .float .nan),
   ("Infinity", .float (.infinite false)), ("-Infinity", .float (.infinite true))]

def readConstant? (cs : List Char) : Option (Scalar × List Char) :=
  constants.findSome? fun entry =>
    if entry.1.toList.isPrefixOf cs then some (entry.2, cs.drop entry.1.length) else none

mutual

/-- A value, inside which collections may be nested `depth` times. -/
def readValue (depth : Nat) : Nat → List Char → Except Fault (Value × List Char)
  | 0, _ => .error .expectingValue
  | fuel + 1, cs =>
      match cs with
      | '"' :: rest => do
          let (text, rest) ← readText (rest.length + 1) rest
          .ok (.text (String.ofList text), rest)
      | '\x7b' :: rest =>
          if depth = 0 then .error .deepObject
          else
            match skipSpace rest with
            | '\x7d' :: rest => .ok (.map [], rest)
            | rest => readMembers (depth - 1) fuel [] rest
      | '[' :: rest =>
          if depth = 0 then .error .deepArray
          else
            match skipSpace rest with
            | ']' :: rest => .ok (.list [], rest)
            | rest => readItems (depth - 1) fuel [] rest
      | _ =>
          match readConstant? cs with
          | some (scalar, rest) => .ok (.scalar scalar, rest)
          | none => do
              let (scalar, rest) ← match cs with
                | '-' :: rest => readNumber true rest
                | _ => readNumber false cs
              .ok (.scalar scalar, rest)

/-- The members of an object from a key on, added to those read before. -/
def readMembers (depth : Nat) :
    Nat → List (Scalar × Value) → List Char → Except Fault (Value × List Char)
  | 0, _, _ => .error .expectingName
  | fuel + 1, members, '"' :: rest => do
      let (key, rest) ← readText (rest.length + 1) rest
      match skipSpace rest with
      | ':' :: rest =>
          let (value, rest) ← readValue depth fuel (skipSpace rest)
          let members := OrderedMap.put (.text (String.ofList key)) value members
          match skipSpace rest with
          | '\x7d' :: rest => .ok (.map members, rest)
          | ',' :: rest => readMembers depth fuel members (skipSpace rest)
          | _ => .error .expectingComma
      | _ => .error .expectingColon
  | _, _, _ => .error .expectingName

/-- The items of an array from an item on, after those read before in reverse. -/
def readItems (depth : Nat) : Nat → List Value → List Char → Except Fault (Value × List Char)
  | 0, _, _ => .error .expectingValue
  | fuel + 1, items, cs => do
      let (item, rest) ← readValue depth fuel cs
      match skipSpace rest with
      | ']' :: rest => .ok (.list (item :: items).reverse, rest)
      | ',' :: rest => readItems depth fuel (item :: items) (skipSpace rest)
      | _ => .error .expectingComma

end

/-- Reads a whole document, in which collections may be nested `depth` times. -/
def read (depth : Nat) (s : String) : Except Fault Value :=
  match s.toList with
  | '\uFEFF' :: _ => .error .byteOrderMark
  | cs => do
      let (value, rest) ← readValue depth (2 * cs.length + 2) (skipSpace cs)
      if (skipSpace rest).isEmpty then .ok value else .error .extraData

end AsmNavigator.Json
