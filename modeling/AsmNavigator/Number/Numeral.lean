import AsmNavigator.Number.Double
import AsmNavigator.Text.Blank
import AsmNavigator.Text.Digit
import AsmNavigator.Text.Quoted

/-!
# Numerals

Numbers as people write them: with blanks around, a sign, digits of any script and
single underscores between digits. An integer is in a given base, whose mark (`0b`, `0o`,
`0x`) may precede the digits. Decimal integers of more than 4300 digits are refused.
-/

namespace AsmNavigator.Numeral

inductive Flaw where
  | malformed
  | tooLong (digits : Nat)
  deriving DecidableEq, Repr

/-- The longest decimal number that is converted, in digits. -/
def digitLimit : Nat := 4300

def tooLongMessage (digits : Nat) : String :=
  s!"Exceeds the limit (4300 digits) for integer string conversion: value has {digits} digits; use sys.set_int_max_str_digits() to increase the limit"

def unshowableMessage : String :=
  "Exceeds the limit (4300 digits) for integer string conversion; use sys.set_int_max_str_digits() to increase the limit"

/-- What is said of a text that is no number; a long text is cut. -/
def malformedMessage (base : Nat) (s : String) : String :=
  s!"invalid literal for int() with base {base}: " ++
    String.ofList ((Text.quoted s).toList.take 200)

def Flaw.message (base : Nat) (s : String) : Flaw → String
  | .malformed => malformedMessage base s
  | .tooLong digits => tooLongMessage digits

/-- The value of a digit below `base`; letters go on where the digits end. -/
def digitValue? (base : Nat) (c : Char) : Option Nat :=
  let value? :=
    if 'a' ≤ c && c ≤ 'z' then some (c.toNat - 87)
    else if 'A' ≤ c && c ≤ 'Z' then some (c.toNat - 55)
    else Text.decimalValue? c
  value?.filter (· < base)

def takeSign : List Char → Bool × List Char
  | '-' :: rest => (true, rest)
  | '+' :: rest => (false, rest)
  | cs => (false, cs)

def applySign (negative : Bool) (n : Nat) : Int := if negative then -(n : Int) else n

def baseMark? : Nat → Option Char
  | 2 => some 'b'
  | 8 => some 'o'
  | 16 => some 'x'
  | _ => none

/-- A number without the mark of its base; one underscore may follow the mark. -/
def dropMark (base : Nat) (cs : List Char) : List Char :=
  match cs with
  | '0' :: mark :: rest =>
      if (baseMark? base).any fun letter => mark == letter || mark == letter.toUpper then
        if rest.head? == some '_' then rest.tail else rest
      else cs
  | _ => cs

/-- Whether underscores stand between digits only, one at a time. -/
def hasSingleLines : List Char → Bool
  | [] => false
  | ['_'] => false
  | '_' :: '_' :: _ => false
  | [_] => true
  | _ :: rest => hasSingleLines rest

def integer (base : Nat) (cs : List Char) : Except Flaw Int :=
  let (negative, unsigned) := takeSign (cs.dropWhile Text.isSpace)
  let cs := dropMark base unsigned
  let run := cs.takeWhile fun c => c == '_' || (digitValue? base c).isSome
  let digits := run.filter (· != '_')
  if run.head? == some '_' || !hasSingleLines run then .error .malformed
  else if base = 10 && digits.length > digitLimit then .error (.tooLong digits.length)
  else if !(cs.drop run.length).all Text.isSpace then .error .malformed
  else .ok (applySign negative
    (digits.foldl (fun n c => base * n + (digitValue? base c).getD 0) 0))

/-- An exponent behind its mark; none is zero. -/
def exponent? : List Char → Option Int
  | [] => some 0
  | mark :: rest =>
      let (negative, digits) := takeSign rest
      if (mark == 'e' || mark == 'E') && !digits.isEmpty && digits.all Text.isDecimalDigit then
        some (applySign negative (Text.decimalNumber digits))
      else none

def unsignedFloat? (negative : Bool) (cs : List Char) : Option Double := do
  let whole := cs.takeWhile Text.isDecimalDigit
  let rest := cs.drop whole.length
  let (fraction, rest) := match rest with
    | '.' :: rest => (rest.takeWhile Text.isDecimalDigit, rest.dropWhile Text.isDecimalDigit)
    | rest => ([], rest)
  let exponent ← exponent? rest
  if whole.isEmpty && fraction.isEmpty then none
  some (.ofDecimal negative (Text.decimalNumber (whole ++ fraction)) (exponent - fraction.length))

/-- The float that a text without underscores denotes. -/
def float? (cs : List Char) : Option Double :=
  let (negative, unsigned) := takeSign (Text.trimBoth Text.isSpace cs)
  let word := String.ofList (unsigned.map Char.toLower)
  if word = "inf" || word = "infinity" then some (.infinite negative)
  else if word = "nan" then some .nan
  else unsignedFloat? negative unsigned

end AsmNavigator.Numeral
