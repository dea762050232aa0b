import AsmNavigator.Data.Value
import AsmNavigator.Number.Numeral
import AsmNavigator.Number.Shortest
import AsmNavigator.Text.Quoted

/-!
# Values in messages

A text stands as it is when it is the whole value and is quoted inside a list or mapping.
Where a collection would be shown inside itself, dots stand for it. An integer of more
than 4300 digits cannot be shown.
-/

namespace AsmNavigator

namespace Scalar

/-- A scalar as a member of a list or mapping. -/
def quoted : Scalar → String
  | .null => "None"
  | .bool true => "True"
  | .bool false => "False"
  | .int n => toString n
  | .float x => x.toText
  | .text s => Text.quoted s
  | .bytes content => Text.quotedBytes content
  | .stamp moment => moment.quoted

/-- The least number that is too long to show. -/
def shownLimit : Nat := Nat.pow 10 Numeral.digitLimit

def isShowable : Scalar → Bool
  | .int n => n.natAbs < shownLimit
  | _ => true

end Scalar

namespace Value

/-- What stands for a collection inside itself. -/
def dots : Value → String
  | .list _ => "[...]"
  | .pair .. => "(...)"
  | _ => "\x7b...\x7d"

mutual

def quotedIn (knots : List (Nat × String)) : Value → String
  | .scalar s => s.quoted
  | .list items => "[" ++ String.intercalate ", " (quotedItems knots items) ++ "]"
  | .map entries => "\x7b" ++ String.intercalate ", " (quotedEntries knots entries) ++ "\x7d"
  | .set [] => "set()"
  | .set members => "\x7b" ++ String.intercalate ", " (members.map Scalar.quoted) ++ "\x7d"
  | .pair first second => "(" ++ quotedIn knots first ++ ", " ++ quotedIn knots second ++ ")"
  | .knot label body =>
      match knots.lookup label with
      | some mark => mark
      | none => quotedIn ((label, body.dots) :: knots) body
  | .link label => (knots.lookup label).getD ""

def quotedItems (knots : List (Nat × String)) : List Value → List String
  | [] => []
  | item :: rest => quotedIn knots item :: quotedItems knots rest

def quotedEntries (knots : List (Nat × String)) : List (Scalar × Value) → List String
  | [] => []
  | (key, value) :: rest =>
      (key.quoted ++ ": " ++ quotedIn knots value) :: quotedEntries knots rest

end

def quoted (value : Value) : String := quotedIn [] value

def shown : Value → String
  | .scalar (.text s) => s
  | .scalar (.stamp moment) => moment.shown
  | value => value.quoted

mutual

def isShowable : Value → Bool
  | .scalar s => s.isShowable
  | .list items => areShowable items
  | .map entries => areShowableEntries entries
  | .set members => members.all Scalar.isShowable
  | .pair first second => isShowable first && isShowable second
  | .knot _ body => isShowable body
  | .link _ => true

def areShowable : List Value → Bool
  | [] => true
  | item :: rest => isShowable item && areShowable rest

def areShowableEntries : List (Scalar × Value) → Bool
  | [] => true
  | (key, value) :: rest => key.isShowable && isShowable value && areShowableEntries rest

end

end Value

end AsmNavigator
