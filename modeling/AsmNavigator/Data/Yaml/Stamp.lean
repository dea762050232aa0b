import AsmNavigator.Data.Stamp
import AsmNavigator.Data.Yaml.Fault

/-!
# Written dates and times

A date is written as year, month and day; a time of day, a fraction of a second and an
offset may follow. A line feed at the end does not count.
-/

namespace AsmNavigator.Stamp

/-- A number of at least `least` and at most `most` digits, and what follows. -/
def number? (least most : Nat) (cs : List Char) : Option (Nat × List Char) :=
  let digits := (cs.take most).takeWhile Char.isDigit
  if digits.length < least then none
  else some (digits.foldl (fun n d => 10 * n + (d.toNat - 48)) 0, cs.drop digits.length)

def expect? (c : Char) : List Char → Option (List Char)
  | x :: rest => if x == c then some rest else none
  | [] => none

/-- Millionths from the digits of a fraction; further digits are cut off. -/
def millionths (digits : List Char) : Nat :=
  ((digits.take 6) ++ List.replicate (6 - digits.length) '0').foldl
    (fun n d => 10 * n + (d.toNat - 48)) 0

def fraction (cs : List Char) : Nat × List Char :=
  match cs with
  | '.' :: rest =>
      let digits := rest.takeWhile Char.isDigit
      (millionths digits, rest.drop digits.length)
  | _ => (0, cs)

def isGap (c : Char) : Bool := c == ' ' || c == '\t'

def offset? (cs : List Char) : Option (Option Int) :=
  match cs.dropWhile isGap with
  | [] => if cs.isEmpty then some none else none
  | ['Z'] => some (some 0)
  | sign :: rest =>
      if sign == '+' || sign == '-' then do
        let (hours, rest) ← number? 1 2 rest
        let minutes ← match rest with
          | [] => some 0
          | ':' :: rest => do
              let (minutes, rest) ← number? 2 2 rest
              if rest.isEmpty then some minutes else none
          | _ => none
        let total : Int := 60 * hours + minutes
        some (some (if sign == '-' then -total else total))
      else none

def timeOfDay? (cs : List Char) : Option TimeOfDay := do
  let cs ← match cs with
    | 'T' :: rest | 't' :: rest => some rest
    | c :: rest => if isGap c then some (rest.dropWhile isGap) else none
    | [] => none
  let (hour, cs) ← number? 1 2 cs
  let (minute, cs) ← number? 2 2 (← expect? ':' cs)
  let (second, cs) ← number? 2 2 (← expect? ':' cs)
  let (microsecond, cs) := fraction cs
  some ⟨hour, minute, second, microsecond, ← offset? cs⟩

/-- The date or time that a text denotes, which need not exist. -/
def ofText? (cs : List Char) : Option Stamp := do
  let (year, rest) ← number? 4 4 cs
  let (month, rest) ← number? 1 2 (← expect? '-' rest)
  let (day, rest) ← number? 1 2 (← expect? '-' rest)
  if rest.isEmpty then some ⟨year, month, day, none⟩
  else some ⟨year, month, day, some (← timeOfDay? rest)⟩

/-- Whether a text is a date or time by its form. A date alone has two digits for month
and day. -/
def isWritten (cs : List Char) : Bool :=
  (ofText? cs).any fun stamp => stamp.time?.isSome || cs.length = 10

/-- The number of minutes from which on an offset is refused. -/
def offsetLimit : Nat := 24 * 60

def flaw? (stamp : Stamp) : Option String :=
  match (stamp.time?.bind TimeOfDay.offset?).filter (offsetLimit ≤ ·.natAbs) with
  | some minutes =>
      some ("offset must be a timedelta strictly between -timedelta(hours=24) and " ++
        "timedelta(hours=24), not " ++ quotedDuration minutes ++ ".")
  | none =>
      if stamp.year == 0 then some "year 0 is out of range"
      else if stamp.month == 0 || stamp.month > 12 then some "month must be in 1..12"
      else if stamp.day == 0 || stamp.day > daysIn stamp.year stamp.month then
        some "day is out of range for month"
      else
        stamp.time?.bind fun time =>
          if time.hour > 23 then some "hour must be in 0..23"
          else if time.minute > 59 then some "minute must be in 0..59"
          else if time.second > 59 then some "second must be in 0..59"
          else none

def dropLineFeed (cs : List Char) : List Char :=
  if cs.getLast? == some '\n' then cs.dropLast else cs

def read (cs : List Char) : Except Yaml.Fault Stamp :=
  match ofText? (dropLineFeed cs) with
  | none => .error .notAStamp
  | some stamp =>
      match stamp.flaw? with
      | some message => .error (.value message)
      | none => .ok stamp

end AsmNavigator.Stamp
