/-!
# Binary floating-point numbers

A double is a sign, a significand below 2^53 and an exponent of two, or one of the
special values. Reading a decimal rounds to the nearest double, ties to an even
significand, in exact integer arithmetic.
-/

namespace AsmNavigator

inductive Double where
  | finite (negative : Bool) (significand : Nat) (exponent : Int)
  | infinite (negative : Bool)
  | nan
  deriving DecidableEq, Repr, Inhabited

namespace Double

/-- `n` times a power of `base`; a negative exponent leaves `n` as it is. -/
def scale (base n : Nat) (exponent : Int) : Nat := n * Nat.pow base exponent.toNat

/-- The significand and exponent of the double nearest to `num / den`, before the check
for overflow. The exponent is at least -1074. -/
def nearest (num den : Nat) : Nat × Int :=
  let guess : Int := (num.log2 : Int) - den.log2 - 52
  let quotient (e : Int) : Nat × Nat × Nat :=
    let n := scale 2 num (-e)
    let d := scale 2 den e
    (n / d, n % d, d)
  let start := max guess (-1074)
  let e := if start > -1074 && (quotient start).1 < Nat.pow 2 52 then start - 1 else start
  let (q, r, d) := quotient e
  let rounded := if 2 * r > d || (2 * r == d && q % 2 == 1) then q + 1 else q
  if rounded == Nat.pow 2 53 then (Nat.pow 2 52, e + 1) else (rounded, e)

def ofRatio (negative : Bool) (num den : Nat) : Double :=
  if num == 0 then .finite negative 0 0
  else
    let (m, e) := nearest num den
    if e > 971 then .infinite negative else .finite negative m e

def ofDecimal (negative : Bool) (digits : Nat) (exponent : Int) : Double :=
  if digits == 0 then .finite negative 0 0
  else
    let magnitude : Int := (Nat.toDigits 10 digits).length + exponent
    if magnitude > 310 then .infinite negative
    else if magnitude < -330 then .finite negative 0 0
    else ofRatio negative (scale 10 digits exponent) (scale 10 1 (-exponent))

/-- The double nearest to a number, if the number is not too large. -/
def ofNat? (n : Nat) : Option Double :=
  match ofRatio false n 1 with
  | .finite negative m e => some (.finite negative m e)
  | _ => none

def neg : Double → Double
  | .finite negative m e => .finite (!negative) m e
  | .infinite negative => .infinite (!negative)
  | .nan => .nan

/-- `± m * 2 ^ (e - least)`, for a `least` that is not above `e`. -/
def alignedTo (least : Int) (negative : Bool) (m : Nat) (e : Int) : Int :=
  let n : Int := scale 2 m (e - least)
  if negative then -n else n

/-- The sum, rounded once. A sum of opposites is the positive zero. -/
def add : Double → Double → Double
  | .finite negative m e, .finite negative' m' e' =>
      let least := min e e'
      let sum := alignedTo least negative m e + alignedTo least negative' m' e'
      if sum = 0 then .finite (negative && negative') 0 0
      else ofRatio (sum < 0) (scale 2 sum.natAbs least) (scale 2 1 (-least))
  | .infinite negative, .infinite negative' =>
      if negative = negative' then .infinite negative else .nan
  | .nan, _ | _, .nan => .nan
  | .infinite negative, _ | _, .infinite negative => .infinite negative

def mul : Double → Double → Double
  | .finite negative m e, .finite negative' m' e' =>
      ofRatio (negative != negative') (scale 2 (m * m') (e + e')) (scale 2 1 (-(e + e')))
  | .nan, _ | _, .nan => .nan
  | .infinite negative, .infinite negative' => .infinite (negative != negative')
  | .infinite negative, .finite negative' m _ | .finite negative m _, .infinite negative' =>
      if m = 0 then .nan else .infinite (negative != negative')

def toInt? : Double → Option Int
  | .finite negative m e =>
      let magnitude? : Option Nat :=
        if m % scale 2 1 (-e) == 0 then some (scale 2 m e / scale 2 1 (-e)) else none
      magnitude?.map fun n => if negative then -(n : Int) else n
  | _ => none

end Double

end AsmNavigator
