import AsmNavigator.Number.Double

/-!
# Shortest decimal text of a double

The text has the fewest digits that read back as the same double, and of those the
nearest, with an even last digit if two are equally near. It is positional for exponents
from -5 up to below 16.
-/

namespace AsmNavigator.Double

/-- The `count`-digit decimals next to `num / den` below and above, with their common
exponent of ten. -/
def neighbours (num den : Nat) (power : Int) : Nat × Nat :=
  let n := scale 10 num (-power)
  let d := scale 10 den power
  (n / d, n / d + 1)

/-- The place of the leading digit: `10 ^ place ≤ num / den < 10 ^ (place + 1)`. -/
def leadingPlace (num den : Nat) : Int :=
  let guess : Int :=
    ((Nat.toDigits 10 num).length : Int) - (Nat.toDigits 10 den).length
  if scale 10 num (-guess) < scale 10 den guess then guess - 1 else guess

/-- Whether `low` is the better decimal for `num / den` than its successor, both in units of
`10 ^ power`: it is nearer, or as near and even. -/
def prefersLow (num den : Nat) (power : Int) (low : Nat) : Bool :=
  let n := scale 10 num (-power)
  let d := scale 10 den power
  let below := n - low * d
  let above := (low + 1) * d - n
  below < above || (below == above && low % 2 == 0)

/-- Digits and exponent of the shortest decimal, trying one digit more at a time. -/
def shortestFrom (value : Double) (num den : Nat) (place : Int) : Nat → Nat → Nat × Int
  | _, 0 => (0, 0)
  | count, fuel + 1 =>
      let power := place - (count : Int) + 1
      let (low, high) := neighbours num den power
      let lowHits := ofDecimal false low power == value
      let highHits := ofDecimal false high power == value
      if lowHits && (!highHits || prefersLow num den power low) then (low, power)
      else if highHits then (high, power)
      else if fuel == 0 then (low, power)
      else shortestFrom value num den place (count + 1) fuel

def shortestDigits (m : Nat) (e : Int) : Nat × Int :=
  let num := scale 2 m e
  let den := scale 2 1 (-e)
  shortestFrom (.finite false m e) num den (leadingPlace num den) 1 17

def zeros (n : Nat) : List Char := List.replicate n '0'

def twoDigits (n : Nat) : List Char :=
  if n < 10 then '0' :: Nat.toDigits 10 n else Nat.toDigits 10 n

def dropTrailingZeros (digits : List Char) : List Char :=
  (digits.reverse.dropWhile (· == '0')).reverse

def layout (digits : Nat) (power : Int) : List Char :=
  let all := Nat.toDigits 10 digits
  let place : Int := power + all.length - 1
  let ds := dropTrailingZeros all
  if place < -4 || 16 ≤ place then
    let head := ds.take 1
    let tail := ds.drop 1
    let mark := if place < 0 then ['e', '-'] else ['e', '+']
    head ++ (if tail.isEmpty then [] else '.' :: tail) ++ mark ++ twoDigits place.natAbs
  else if place < 0 then
    '0' :: '.' :: zeros (-place - 1).toNat ++ ds
  else
    let whole := place.toNat + 1
    let before := ds.take whole
    let after := ds.drop whole
    before ++ zeros (whole - before.length) ++ '.' :: (if after.isEmpty then ['0'] else after)

def toText : Double → String
  | .nan => "nan"
  | .infinite negative => if negative then "-inf" else "inf"
  | .finite negative m e =>
      let body := if m == 0 then ['0', '.', '0'] else
        let (digits, power) := shortestDigits m e
        layout digits power
      String.ofList (if negative then '-' :: body else body)

end AsmNavigator.Double
