import AsmNavigator.Data.Stamp
import AsmNavigator.Number.Double
import AsmNavigator.OrderedMap

/-!
# Scalars

The values without parts, which are also the keys of mappings. As a key, a number is its
value however it is written, a truth value is one or zero, and a time with an offset is
its instant.
-/

namespace AsmNavigator

inductive Scalar where
  | null
  | bool (b : Bool)
  | int (n : Int)
  | float (x : Double)
  | text (s : String)
  | bytes (content : List UInt8)
  | stamp (moment : Stamp)
  deriving DecidableEq, Repr, Inhabited

namespace Scalar

/-- What a scalar is as a key. -/
inductive Identity where
  | number (n : Int)
  /-- A point in time, in microseconds. -/
  | instant (n : Int)
  | itself (s : Scalar)
  deriving DecidableEq

def identity (s : Scalar) : Identity :=
  match s with
  | .bool b => .number (if b then 1 else 0)
  | .int n => .number n
  | .float x =>
      match x.toInt? with
      | some n => .number n
      | none => .itself s
  | .stamp moment =>
      match moment.instant? with
      | some n => .instant n
      | none => .itself s
  | _ => .itself s

def find? (key : Scalar) : List (Scalar × α) → Option α
  | [] => none
  | (k, a) :: rest => if k.identity = key.identity then some a else find? key rest

/-- The entries with the value at a key replaced in place, the key staying as it was first
written, or added at the end. -/
def put (key : Scalar) (value : α) : List (Scalar × α) → List (Scalar × α)
  | [] => [(key, value)]
  | (k, a) :: rest =>
      if k.identity = key.identity then (k, value) :: rest else (k, a) :: put key value rest

/-- A text is the same key as itself alone. -/
theorem identity_eq_text_iff (k : Scalar) (name : String) :
    k.identity = (text name).identity ↔ k = text name := by
  constructor
  · intro h
    cases k with
    | float x => cases hx : x.toInt? <;> simp_all [identity]
    | stamp moment => cases hs : moment.instant? <;> simp_all [identity]
    | _ => simp_all [identity]
  · rintro rfl
    rfl

/-- Looking up a text takes the entry with that very key. -/
theorem find?_text (name : String) (entries : List (Scalar × α)) :
    find? (text name) entries = OrderedMap.find? (text name) entries := by
  induction entries with
  | nil => rfl
  | cons entry rest ih => simp [find?, OrderedMap.find?, identity_eq_text_iff, ih]

/-- Setting a text replaces the entry with that very key. -/
theorem put_text (name : String) (value : α) (entries : List (Scalar × α)) :
    put (text name) value entries = OrderedMap.put (text name) value entries := by
  induction entries with
  | nil => rfl
  | cons entry rest ih => simp [put, OrderedMap.put, identity_eq_text_iff, ih]

end Scalar

end AsmNavigator
