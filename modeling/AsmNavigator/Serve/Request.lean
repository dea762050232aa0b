import AsmNavigator.Schema.Integer

/-!
# Requests

A request is a JSON object on one line. The method is required; what else is needed
depends on it. Fields that are not known are ignored.
-/

namespace AsmNavigator.Serve

open Schema

inductive RequestId where
  | number (n : Int)
  | text (s : String)
  deriving DecidableEq, Repr

def RequestId.toValue : RequestId → Value
  | .number n => .int n
  | .text s => .text s

structure Request where
  id? : Option RequestId
  method : String
  path? : Option String
  line? : Option Int
  character? : Option Int
  /-- The unsaved text of the file. -/
  text? : Option String
  deriving DecidableEq, Repr

/-- A text stays a text; anything else counts as an integer. -/
def RequestId.check (value : Value) : Check RequestId :=
  match value with
  | .scalar (.text s) => .valid (.text s)
  | _ =>
      match integer value with
      | .valid n => .valid (.number n)
      | .invalid issues =>
          .invalid (issues.map (Issue.under "int") ++ [⟨["str"], .textExpected, value⟩])
      | .faulty fault => .faulty fault

/-- A line or a column, counted from zero. -/
def coordinate (value : Value) : Check Int :=
  (integer value).andThen (atLeast 0 value)

def Request.ofEntries (entries : List (Scalar × Value)) : Check Request :=
  Request.mk
    <$> field entries "id" none (optional RequestId.check)
    <*> requiredField entries "method" text
    <*> field entries "path" none (optional text)
    <*> field entries "line" none (optional coordinate)
    <*> field entries "character" none (optional coordinate)
    <*> field entries "text" none (optional text)

/-- The identification of a request that is refused: a number, a truth value as a number,
or a text. -/
def refusedId? (entries : List (Scalar × Value)) : Option RequestId :=
  match OrderedMap.find? (.text "id") entries with
  | some (.scalar (.int n)) => some (.number n)
  | some (.scalar (.bool b)) => some (.number (if b then 1 else 0))
  | some (.scalar (.text s)) => some (.text s)
  | _ => none

end AsmNavigator.Serve
