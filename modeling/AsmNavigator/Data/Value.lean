import AsmNavigator.Data.Scalar

/-!
# Data of configuration documents and requests

A value is a scalar, a list, a mapping with scalar keys in order of first appearance, a
set or a pair. A collection may contain itself: it is a knot then, and a link inside it
stands for the whole of it.
-/

namespace AsmNavigator

inductive Value where
  | scalar (s : Scalar)
  | list (items : List Value)
  | map (entries : List (Scalar × Value))
  | set (members : List Scalar)
  | pair (first second : Value)
  /-- A collection on a cycle, under a label of its own. -/
  | knot (label : Nat) (body : Value)
  /-- The knot with that label. -/
  | link (label : Nat)
  deriving Repr, Inhabited

namespace Value

abbrev null : Value := .scalar .null
abbrev bool (b : Bool) : Value := .scalar (.bool b)
abbrev int (n : Int) : Value := .scalar (.int n)
abbrev text (s : String) : Value := .scalar (.text s)

instance : Coe String Value := ⟨text⟩

def object (fields : List (String × Value)) : Value :=
  .map (fields.map fun field => (.text field.1, field.2))

def texts (items : List String) : Value :=
  .list (items.map text)

def ofOption (f : α → Value) : Option α → Value
  | none => null
  | some a => f a

def get? (v : Value) (key : String) : Option Value :=
  match v with
  | .map entries => OrderedMap.find? (.text key) entries
  | _ => none

def isNull : Value → Bool
  | .scalar .null => true
  | _ => false

/-- Whether a document counts as empty: null, false, zero, or without content. -/
def isEmpty : Value → Bool
  | .scalar .null | .scalar (.bool false) | .scalar (.int 0) | .scalar (.text "") => true
  | .scalar (.float (.finite _ 0 _)) | .scalar (.bytes []) => true
  | .list items => items.isEmpty
  | .map entries => entries.isEmpty
  | .set members => members.isEmpty
  | _ => false

/-! ## Knots -/

mutual

def replaceLink (label : Nat) (whole : Value) : Value → Value
  | .scalar s => .scalar s
  | .list items => .list (replaceInItems label whole items)
  | .map entries => .map (replaceInEntries label whole entries)
  | .set members => .set members
  | .pair first second => .pair (replaceLink label whole first) (replaceLink label whole second)
  | .knot other body =>
      if other = label then .knot other body else .knot other (replaceLink label whole body)
  | .link other => if other = label then whole else .link other

def replaceInItems (label : Nat) (whole : Value) : List Value → List Value
  | [] => []
  | item :: rest => replaceLink label whole item :: replaceInItems label whole rest

def replaceInEntries (label : Nat) (whole : Value) :
    List (Scalar × Value) → List (Scalar × Value)
  | [] => []
  | (key, value) :: rest =>
      (key, replaceLink label whole value) :: replaceInEntries label whole rest

end

/-- The collection that a knot is, with the knot itself in the place of its links. -/
def opened : Value → Value
  | .knot label body => replaceLink label (.knot label body) body
  | value => value

end Value

end AsmNavigator
