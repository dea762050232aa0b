import AsmNavigator.Data.Yaml.Stamp
import AsmNavigator.Number.Numeral
import AsmNavigator.Text.Split

/-!
# Types of plain texts

A plain text that is spelled like a truth value, a number, a date or nothing at all is
one. Numbers may hold underscores, integers may be binary, octal, hexadecimal or in
sixties, and the sign of an exponent must be written. A line feed at the end of the text
does not count.
-/

namespace AsmNavigator.Yaml

inductive Tag where
  | null
  | bool
  | int
  | float
  | stamp
  | text
  | binary
  /-- The key that takes over the entries of other mappings. -/
  | merge
  /-- The key that stands for a mapping as a whole. -/
  | value
  | sequence
  | mapping
  | set
  /-- Pairs in their order. -/
  | pairs
  | other
  deriving DecidableEq, Repr

def trueWords : List String := ["yes", "Yes", "YES", "true", "True", "TRUE", "on", "On", "ON"]

def falseWords : List String :=
  ["no", "No", "NO", "false", "False", "FALSE", "off", "Off", "OFF"]

def nullWords : List String := ["", "~", "null", "Null", "NULL"]

open Numeral (takeSign)

def isDigitOrLine (c : Char) : Bool := c.isDigit || c == '_'

/-- A digit, followed by digits and underscores. -/
def isDigits (cs : List Char) : Bool :=
  cs.head?.any Char.isDigit && cs.all isDigitOrLine

def isSixtieth : List Char → Bool
  | [c] => c.isDigit
  | [c, d] => '0' ≤ c && c ≤ '5' && d.isDigit
  | _ => false

/-- Parts of a number in sixties after the first. -/
def areSixtieths (parts : List (List Char)) : Bool :=
  !parts.isEmpty && parts.all isSixtieth

def startsNonZero (cs : List Char) : Bool :=
  cs.head?.any fun c => '1' ≤ c && c ≤ '9'

def isUnsignedInt (cs : List Char) : Bool :=
  match cs with
  | ['0'] => true
  | '0' :: 'b' :: digits => !digits.isEmpty && digits.all fun c => c == '0' || c == '1' || c == '_'
  | '0' :: 'x' :: digits =>
      !digits.isEmpty && digits.all fun c =>
        isDigitOrLine c || ('a' ≤ c && c ≤ 'f') || ('A' ≤ c && c ≤ 'F')
  | '0' :: digits => !digits.isEmpty && digits.all fun c => ('0' ≤ c && c ≤ '7') || c == '_'
  | _ =>
      match Text.splitOn ':' cs with
      | first :: parts =>
          startsNonZero first && isDigits first && (parts.isEmpty || areSixtieths parts)
      | [] => false

def isInt (cs : List Char) : Bool := isUnsignedInt (takeSign cs).2

/-- The exponent of a float; its sign must be written. -/
def isExponent : List Char → Bool
  | [] => true
  | mark :: sign :: digits =>
      (mark == 'e' || mark == 'E') && (sign == '+' || sign == '-') && !digits.isEmpty &&
        digits.all Char.isDigit
  | _ => false

/-- What may follow the point of a float. -/
def isFraction (cs : List Char) : Bool := isExponent (cs.dropWhile isDigitOrLine)

def infinityWords : List String := [".inf", ".Inf", ".INF"]

def nanWords : List String := [".nan", ".NaN", ".NAN"]

def isFloat (cs : List Char) : Bool :=
  let unsigned := (takeSign cs).2
  let whole := unsigned.takeWhile (· != '.')
  let fraction := unsigned.drop (whole.length + 1)
  let hasPoint := unsigned.length > whole.length
  let isPlain := isDigits whole && isFraction fraction
  let isBare := cs.head? == some '.' && fraction.head?.any Char.isDigit && isFraction fraction
  let isInSixties := match Text.splitOn ':' whole with
    | first :: parts => isDigits first && areSixtieths parts && fraction.all isDigitOrLine
    | [] => false
  (hasPoint && (isPlain || isBare || isInSixties)) ||
    infinityWords.contains (String.ofList unsigned) || nanWords.contains (String.ofList cs)

def Tag.ofWords (s : String) : Tag :=
  let cs := s.toList
  if trueWords.contains s || falseWords.contains s then .bool
  else if isFloat cs then .float
  else if isInt cs then .int
  else if s = "<<" then .merge
  else if nullWords.contains s then .null
  else if Stamp.isWritten cs then .stamp
  else if s = "=" then .value
  else .text

def Tag.ofPlain (s : String) : Tag :=
  if s = "\n" then .text else .ofWords (String.ofList (Stamp.dropLineFeed s.toList))

def Tag.ofName (name : String) : Tag :=
  ([("tag:yaml.org,2002:null", Tag.null), ("tag:yaml.org,2002:bool", .bool),
    ("tag:yaml.org,2002:int", .int), ("tag:yaml.org,2002:float", .float),
    ("tag:yaml.org,2002:timestamp", .stamp), ("tag:yaml.org,2002:str", .text),
    ("tag:yaml.org,2002:binary", .binary), ("tag:yaml.org,2002:merge", .merge),
    ("tag:yaml.org,2002:value", .value), ("tag:yaml.org,2002:seq", .sequence),
    ("tag:yaml.org,2002:map", .mapping), ("tag:yaml.org,2002:set", .set),
    ("tag:yaml.org,2002:omap", .pairs), ("tag:yaml.org,2002:pairs", .pairs)].lookup name).getD
      .other

end AsmNavigator.Yaml
