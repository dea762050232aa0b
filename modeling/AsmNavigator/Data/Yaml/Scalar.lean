import AsmNavigator.Data.Scalar
import AsmNavigator.Data.Yaml.Tag
import AsmNavigator.Text.Base64
import AsmNavigator.Text.LowerCase

/-!
# The values of typed texts

What a text denotes as a truth value, a number, a date or bytes. The type may be written
in front of any text, so all of these can fail.
-/

namespace AsmNavigator.Yaml

open Numeral (takeSign)

def truthValues : List (String × Bool) :=
  [("yes", true), ("no", false), ("true", true), ("false", false), ("on", true), ("off", false)]

def boolOfText (s : String) : Except Fault Bool :=
  let word := Text.lowerCase s
  match truthValues.lookup word with
  | some b => .ok b
  | none => .error (.unknownWord word)

def integerIn (base : Nat) (cs : List Char) : Except Fault Int :=
  (Numeral.integer base cs).mapError fun flaw => .value (flaw.message base (String.ofList cs))

/-- The number of which the parts are the digits in base sixty. -/
def inSixties (parts : List Int) : Int := parts.foldl (fun n part => 60 * n + part) 0

/-- An integer without its sign. A zero in front makes it octal. -/
def unsignedInt (cs : List Char) : Except Fault Int :=
  match cs with
  | [] => .error .noDigits
  | ['0'] => .ok 0
  | '0' :: 'b' :: digits => integerIn 2 digits
  | '0' :: 'x' :: digits => integerIn 16 digits
  | '0' :: _ => integerIn 8 cs
  | _ =>
      if cs.contains ':' then do
        return inSixties (← (Text.splitOn ':' cs).mapM (integerIn 10))
      else integerIn 10 cs

def intOfText (s : String) : Except Fault Int := do
  let (negative, cs) := takeSign (s.toList.filter (· != '_'))
  let n ← unsignedInt cs
  return if negative then -n else n

def floatIn (cs : List Char) : Except Fault Double :=
  match Numeral.float? cs with
  | some x => .ok x
  | none =>
      .error (.value ("could not convert string to float: " ++ Text.quoted (String.ofList cs)))

/-- The sum of parts that weigh sixty times as much from each to the next, the last one
first. Every step is rounded. -/
def sumOfSixties (total : Double) (weight : Nat) : List Double → Except Fault Double
  | [] => .ok total
  | part :: rest =>
      match Double.ofNat? weight with
      | some factor => sumOfSixties (total.add (part.mul factor)) (60 * weight) rest
      | none => .error (.overflow "int too large to convert to float")

def unsignedFloat (negative : Bool) (cs : List Char) : Except Fault Double := do
  let signed (x : Double) : Double := if negative then x.neg else x
  if cs = ".inf".toList then return signed (.infinite false)
  else if cs = ".nan".toList then return .nan
  else if cs.contains ':' then
    let parts ← (Text.splitOn ':' cs).mapM floatIn
    return signed (← sumOfSixties (.finite false 0 0) 1 parts.reverse)
  else return signed (← floatIn cs)

def floatOfText (s : String) : Except Fault Double :=
  let cs := (Text.lowerCase (String.ofList (s.toList.filter (· != '_')))).toList
  if cs.isEmpty then .error .noDigits
  else
    let (negative, unsigned) := takeSign cs
    unsignedFloat negative unsigned

def bytesOfText (s : String) : Except Fault (List UInt8) :=
  match if s.toList.all (·.toNat < 128) then Text.Base64.decode? s.toList else none with
  | some bytes => .ok bytes
  | none => .error .malformed

def scalarOfText (tag : Tag) (s : String) : Except Fault Scalar :=
  match tag with
  | .null => .ok .null
  | .bool => (boolOfText s).map .bool
  | .int => (intOfText s).map .int
  | .float => (floatOfText s).map .float
  | .stamp => (Stamp.read s.toList).map .stamp
  | .text => .ok (.text s)
  | .binary => (bytesOfText s).map .bytes
  | _ => .error .malformed

end AsmNavigator.Yaml
