import AsmNavigator.Data.Display
import AsmNavigator.Fault
import AsmNavigator.Schema.Issue

/-!
# Checking values

A check yields what the input stands for or all that is wrong with it. Checks of several
parts are independent: the issues of each are collected in order. A fault ends the check.
-/

namespace AsmNavigator.Schema

inductive Check (α : Type) where
  | valid (a : α)
  | invalid (issues : List Issue)
  | faulty (fault : Fault)

namespace Check

def map (f : α → β) : Check α → Check β
  | .valid a => .valid (f a)
  | .invalid issues => .invalid issues
  | .faulty fault => .faulty fault

/-- Both parts are checked, whatever the first yields, unless it is a fault. -/
def apply : Check (α → β) → Check α → Check β
  | .valid f, check => check.map f
  | .invalid issues, .valid _ => .invalid issues
  | .invalid issues, .invalid more => .invalid (issues ++ more)
  | .invalid _, .faulty fault => .faulty fault
  | .faulty fault, _ => .faulty fault

instance : Functor Check := { map := map }

instance : Applicative Check :=
  { pure := .valid
    seq := fun f a => apply f (a ()) }

def andThen : Check α → (α → Check β) → Check β
  | .valid a, next => next a
  | .invalid issues, _ => .invalid issues
  | .faulty fault, _ => .faulty fault

def reject (kind : IssueKind) (input : Value) : Check α :=
  .invalid [⟨[], kind, input⟩]

def under (name : String) : Check α → Check α
  | .invalid issues => .invalid (issues.map (Issue.under name))
  | check => check

def all (check : α → Check β) : List α → Check (List β)
  | [] => .valid []
  | a :: rest => List.cons <$> check a <*> all check rest

@[simp] theorem map_valid (f : α → β) (a : α) : (valid a).map f = valid (f a) := rfl

@[simp] theorem apply_valid (f : α → β) (a : α) : (valid f).apply (valid a) = valid (f a) := rfl

/-- Issues of two parts stand in the order of the parts. -/
@[simp] theorem apply_invalid (issues more : List Issue) :
    (invalid issues : Check (α → β)).apply (invalid more) = invalid (issues ++ more) := rfl

end Check

/-! ## Values of simple types -/

open Check

def textOfBytes? (bytes : List UInt8) : Option String :=
  (String.fromUTF8? (ByteArray.mk bytes.toArray)).map Text.kept

/-- A text; bytes count as the text that they encode. -/
def text (value : Value) : Check String :=
  match value with
  | .scalar (.text s) => .valid s
  | .scalar (.bytes content) =>
      match textOfBytes? content with
      | some s => .valid s
      | none => reject .brokenText value
  | _ => reject .textExpected value

def optional (check : Value → Check α) (value : Value) : Check (Option α) :=
  if value.isNull then .valid none else (check value).map some

def option (options : List (String × α)) (value : Value) : Check α :=
  let refusal := reject (.oneOf (options.map (·.1))) value
  match value with
  | .scalar (.text s) =>
      match options.lookup s with
      | some a => .valid a
      | none => if Text.holdsSurrogate s then reject .brokenText value else refusal
  | _ => refusal

def numbered (items : List α) : List (String × α) :=
  items.zipIdx.map fun (item, index) => (toString index, item)

/-- A list; a set counts as the list of its members, and a pair as that of its two parts. -/
def list (check : Value → Check α) (value : Value) : Check (List α) :=
  let checkItems (items : List Value) : Check (List α) :=
    all (fun (name, item) => (check item).under name) (numbered items)
  match value.opened with
  | .list items => checkItems items
  | .set members => checkItems (members.map .scalar)
  | .pair first second => checkItems [first, second]
  | _ => reject .listExpected value

/-- How a key shows in a location: truth values count as the numbers one and zero. -/
def keyName : Scalar → String
  | .text s => s
  | .bool b => if b then "1" else "0"
  | key => key.quoted

/-- A mapping of texts to texts; a key that is none has a location of its own. -/
def textMap (value : Value) : Check (OrderedMap String String) :=
  match value.opened with
  | .map entries =>
      (all (fun entry : Scalar × Value =>
          let key := ((text (.scalar entry.1)).under "[key]").under (keyName entry.1)
          Prod.mk <$> key <*> (text entry.2).under (keyName entry.1)) entries).map OrderedMap.ofList
  | _ => reject .mappingExpected value

/-! ## Records -/

def record (name : String) (value : Value) (fields : List (Scalar × Value) → Check α) : Check α :=
  match value.opened with
  | .map entries => fields entries
  | _ => reject (.recordExpected name) value

/-- A field with a built-in value, which is not checked. -/
def field (entries : List (Scalar × Value)) (name : String) (builtIn : α)
    (check : Value → Check α) : Check α :=
  match OrderedMap.find? (.text name) entries with
  | some value => (check value).under name
  | none => .valid builtIn

def requiredField (entries : List (Scalar × Value)) (name : String)
    (check : Value → Check α) : Check α :=
  match OrderedMap.find? (.text name) entries with
  | some value => (check value).under name
  | none => (reject .required (.map entries)).under name

end AsmNavigator.Schema
