import AsmNavigator.Number.Numeral
import AsmNavigator.Schema.Check
import AsmNavigator.Text.Split

/-!
# Integers

An integer may be given as a truth value, as a float without a fraction, or as a text or
its bytes: with blanks around it, a sign, leading zeros, single underscores between digits and a
fraction of zeros.
-/

namespace AsmNavigator.Schema

namespace Integer

open Check

def isNonZeroDigit (c : Char) : Bool := '1' ≤ c && c ≤ '9'

inductive Reading where
  | number (n : Int)
  | tooLong
  | malformed
  deriving DecidableEq, Repr

/-- An unsigned number without superfluous zeros. The sign counts for the length. -/
def readDigits (negative : Bool) (cs : List Char) : Reading :=
  if cs == ['0'] then .number 0
  else if !cs.head?.any isNonZeroDigit then .malformed
  else
    let digits := cs.takeWhile Char.isDigit
    if digits.length + (if negative then 1 else 0) > Numeral.digitLimit then .tooLong
    else if digits.length ≠ cs.length then .malformed
    else .number (Numeral.applySign negative (Text.decimalNumber digits))

/-- A number in its plain form: a minus sign at most, and no superfluous zeros. -/
def readPlain : List Char → Reading
  | '-' :: rest => readDigits true rest
  | cs => readDigits false cs

/-- After a leading zero: what is left without the zeros, the underscores among them
included. A minus sign may follow them. One zero stays in front of a point or if there is
nothing else. -/
def dropZeros (last : Char) : List Char → Option (List Char)
  | [] => some [last]
  | c :: rest =>
      if c == '0' || c == '_' then dropZeros c rest
      else if isNonZeroDigit c || c == '-' then some (c :: rest)
      else if c == '.' then some (last :: c :: rest)
      else none

def dropLeadingZeros : List Char → Option (List Char)
  | '0' :: rest => dropZeros '0' rest
  | '-' :: rest => (dropLeadingZeros rest).map ('-' :: ·)
  | c :: rest => if isNonZeroDigit c then some (c :: rest) else none
  | [] => none

def dropZeroFraction (cs : List Char) : List Char :=
  let whole := cs.takeWhile (· != '.')
  let fraction := cs.drop (whole.length + 1)
  if !fraction.isEmpty && fraction.all (· == '0') then whole else cs

def dropPlus : List Char → Option (List Char)
  | '+' :: '-' :: _ => none
  | '+' :: rest => some rest
  | cs => some cs

def dropUnderscores (cs : List Char) : List Char :=
  if cs.head? == some '_' || cs.getLast? == some '_' || Text.containsText ['_', '_'] cs then cs
  else cs.filter (· != '_')

def plainForm? (cs : List Char) : Option (List Char) := do
  let cs ← dropPlus (Text.trimBoth Text.isSpace cs)
  let cs ← dropLeadingZeros cs
  return dropUnderscores (dropZeroFraction cs)

/-- The integer that a text denotes. Only a number in its plain form is too long; in any
other form it is malformed then. -/
def ofText (s : String) : Reading :=
  match readPlain s.toList with
  | .malformed =>
      match (plainForm? s.toList).map readPlain with
      | some (.number n) => .number n
      | _ => .malformed
  | reading => reading

def floatLimit : Nat := Nat.pow 2 63

end Integer

open Check Integer

def integerText (value : Value) (s : String) : Check Int :=
  match Integer.ofText s with
  | .number n => .valid n
  | .tooLong => reject .integerSize value
  | .malformed => reject .integerText value

def integer (value : Value) : Check Int :=
  match value with
  | .scalar (.int n) => .valid n
  | .scalar (.bool b) => .valid (if b then 1 else 0)
  | .scalar (.float x) =>
      match x with
      | .finite .. =>
          match x.toInt? with
          | none => reject .fraction value
          | some n => if n.natAbs < floatLimit then .valid n else reject .integerSize value
      | _ => reject .notFinite value
  | .scalar (.text s) =>
      if Text.holdsSurrogate s then reject .brokenText value else integerText value s
  | .scalar (.bytes content) =>
      match textOfBytes? content with
      | some s => integerText value s
      | none => reject .integerText value
  | _ => reject .integerExpected value

def atLeast (least : Int) (value : Value) (n : Int) : Check Int :=
  if least ≤ n then .valid n else reject (.below least) value

end AsmNavigator.Schema
