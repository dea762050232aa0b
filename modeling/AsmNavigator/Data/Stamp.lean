/-!
# Dates and times

A stamp is a calendar date, perhaps with a time of day, which may have an offset from
universal time. Two times with offsets are the same instant if they agree after the
offsets are taken off.
-/

namespace AsmNavigator

structure TimeOfDay where
  hour : Nat
  minute : Nat
  second : Nat
  microsecond : Nat
  /-- The offset in minutes. -/
  offset? : Option Int
  deriving DecidableEq, Repr

structure Stamp where
  year : Nat
  month : Nat
  day : Nat
  time? : Option TimeOfDay
  deriving DecidableEq, Repr

namespace Stamp

def isLeap (year : Nat) : Bool := year % 4 == 0 && (year % 100 != 0 || year % 400 == 0)

def daysIn (year month : Nat) : Nat :=
  if month == 2 then if isLeap year then 29 else 28
  else if [4, 6, 9, 11].contains month then 30
  else 31

/-- The number of days from the first day of the first year. -/
def dayNumber (stamp : Stamp) : Nat :=
  let years := stamp.year - 1
  let months := (List.range stamp.month).tail
  365 * years + years / 4 - years / 100 + years / 400 +
    months.foldl (fun days month => days + daysIn stamp.year month) 0 + (stamp.day - 1)

/-- The microseconds from the beginning of the first day, as universal time. Only a time
with an offset has a place there. -/
def instant? (stamp : Stamp) : Option Int :=
  stamp.time?.bind fun time =>
    time.offset?.map fun offset =>
      let minutes : Int := (24 * stamp.dayNumber + time.hour) * 60 + time.minute - offset
      (minutes * 60 + time.second) * 1000000 + time.microsecond

/-! ## Writing -/

def padded (width n : Nat) : String :=
  let digits := Nat.toDigits 10 n
  String.ofList (List.replicate (width - digits.length) '0' ++ digits)

def shownOffset (minutes : Int) : String :=
  (if minutes < 0 then "-" else "+") ++ padded 2 (minutes.natAbs / 60) ++ ":" ++
    padded 2 (minutes.natAbs % 60)

def shownTime (time : TimeOfDay) : String :=
  " " ++ padded 2 time.hour ++ ":" ++ padded 2 time.minute ++ ":" ++ padded 2 time.second ++
    (if time.microsecond = 0 then "" else "." ++ padded 6 time.microsecond) ++
    (time.offset?.map shownOffset).getD ""

/-- The stamp as a message shows it when it is the whole value. -/
def shown (stamp : Stamp) : String :=
  padded 4 stamp.year ++ "-" ++ padded 2 stamp.month ++ "-" ++ padded 2 stamp.day ++
    (stamp.time?.map shownTime).getD ""

/-- A length of time: whole days, downwards, and the seconds that remain. -/
def quotedDuration (minutes : Int) : String :=
  let days := (minutes * 60).fdiv 86400
  let seconds := (minutes * 60).fmod 86400
  let parts := (if days ≠ 0 then [s!"days={days}"] else []) ++
    (if seconds ≠ 0 then [s!"seconds={seconds}"] else [])
  "datetime.timedelta(" ++ (if parts.isEmpty then "0" else String.intercalate ", " parts) ++ ")"

def quotedOffset (minutes : Int) : String :=
  if minutes = 0 then "datetime.timezone.utc"
  else "datetime.timezone(" ++ quotedDuration minutes ++ ")"

/-- Seconds and their fraction are left out where they are zero. -/
def quotedSeconds (time : TimeOfDay) : List String :=
  if time.microsecond ≠ 0 then [toString time.second, toString time.microsecond]
  else if time.second ≠ 0 then [toString time.second]
  else []

def quoted (stamp : Stamp) : String :=
  let date := [toString stamp.year, toString stamp.month, toString stamp.day]
  match stamp.time? with
  | none => "datetime.date(" ++ String.intercalate ", " date ++ ")"
  | some time =>
      let zone := match time.offset? with
        | none => []
        | some minutes => ["tzinfo=" ++ quotedOffset minutes]
      let parts := date ++ [toString time.hour, toString time.minute] ++ quotedSeconds time ++ zone
      "datetime.datetime(" ++ String.intercalate ", " parts ++ ")"

end Stamp

end AsmNavigator
