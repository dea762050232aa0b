import AsmNavigator.Fault
import AsmNavigator.Text.Digit
import AsmNavigator.Text.LowerCase

/-!
# The order of version names

A name is cut into runs of decimal digits and the texts between them. Numbers compare by
value and come before texts; texts compare without regard to case. A text that only
looks like a number, or a number that is too long, has no place in the order.
-/

namespace AsmNavigator

inductive VersionPart where
  | number (n : Nat)
  | text (s : String)
  deriving DecidableEq, Repr

abbrev VersionKey := List VersionPart

namespace VersionKey

/-- The longest runs of characters that agree on `p`. -/
def runs (p : Char → Bool) : List Char → List (List Char)
  | [] => []
  | c :: rest =>
      match runs p rest with
      | (d :: run) :: more =>
          if p c = p d then (c :: d :: run) :: more else [c] :: (d :: run) :: more
      | more => [c] :: more

def partOfRun (run : List Char) : Except Fault VersionPart :=
  if run.all Text.isDecimalDigit then
    if run.length > Numeral.digitLimit then .error (.tooManyDigits run.length)
    else .ok (.number (Text.decimalNumber run))
  else if run.all Text.isDigitLike then .error (.notANumber (String.ofList run))
  else .ok (.text (Text.lowerCase (String.ofList run)))

def ofName (name : String) : Except Fault VersionKey :=
  (runs Text.isDecimalDigit name.toList).mapM partOfRun

def comparePart : VersionPart → VersionPart → Ordering
  | .number m, .number n => compare m n
  | .number _, .text _ => .lt
  | .text _, .number _ => .gt
  | .text s, .text t => compare s t

def compareKeys : VersionKey → VersionKey → Ordering
  | [], [] => .eq
  | [], _ :: _ => .lt
  | _ :: _, [] => .gt
  | a :: as, b :: bs => (comparePart a b).then (compareKeys as bs)

def keyed (names : List String) : Except Fault (List (VersionKey × String)) :=
  names.mapM fun name => (ofName name).map (·, name)

/-- Names in ascending order; equal ones keep their order. -/
def ascending (names : List String) : Except Fault (List String) := do
  let items ← keyed names
  return (items.mergeSort fun a b => (compareKeys a.1 b.1).isLE).map (·.2)

/-- Names in descending order; equal ones keep their order too. -/
def descending (names : List String) : Except Fault (List String) := do
  let items ← keyed names
  return (items.mergeSort fun a b => (compareKeys a.1 b.1).isGE).map (·.2)

end VersionKey

end AsmNavigator
