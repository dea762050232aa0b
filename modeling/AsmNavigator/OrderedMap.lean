/-!
# Maps in order of first insertion

A map is the list of its entries. Setting a key that is present replaces the value and
keeps its place; a new key goes to the end.
-/

namespace AsmNavigator

structure OrderedMap (κ : Type) (α : Type) where
  entries : List (κ × α)
  deriving DecidableEq

namespace OrderedMap

variable {κ α : Type} [DecidableEq κ]

def empty : OrderedMap κ α := ⟨[]⟩

instance : EmptyCollection (OrderedMap κ α) := ⟨empty⟩

instance : Inhabited (OrderedMap κ α) := ⟨empty⟩

def find? (key : κ) : List (κ × α) → Option α
  | [] => none
  | (k, a) :: rest => if k = key then some a else find? key rest

/-- The entries with the value at `key` replaced in place, or added at the end. -/
def put (key : κ) (value : α) : List (κ × α) → List (κ × α)
  | [] => [(key, value)]
  | (k, a) :: rest => if k = key then (k, value) :: rest else (k, a) :: put key value rest

def get? (m : OrderedMap κ α) (key : κ) : Option α := find? key m.entries

def contains (m : OrderedMap κ α) (key : κ) : Bool := (m.get? key).isSome

def insert (m : OrderedMap κ α) (key : κ) (value : α) : OrderedMap κ α :=
  ⟨put key value m.entries⟩

def insertIfNew (m : OrderedMap κ α) (key : κ) (value : α) : OrderedMap κ α :=
  if m.contains key then m else m.insert key value

def erase (m : OrderedMap κ α) (key : κ) : OrderedMap κ α :=
  ⟨m.entries.filter fun entry => entry.1 ≠ key⟩

def size (m : OrderedMap κ α) : Nat := m.entries.length

def isEmpty (m : OrderedMap κ α) : Bool := m.entries.isEmpty

def keys (m : OrderedMap κ α) : List κ := m.entries.map (·.1)

def values (m : OrderedMap κ α) : List α := m.entries.map (·.2)

/-- Inserts entries from left to right, so a later one wins. -/
def ofList (entries : List (κ × α)) : OrderedMap κ α :=
  entries.foldl (fun m entry => m.insert entry.1 entry.2) empty

@[simp] theorem get?_empty (key : κ) : (empty : OrderedMap κ α).get? key = none := rfl

theorem find?_put (key other : κ) (value : α) (entries : List (κ × α)) :
    find? other (put key value entries) =
      if key = other then some value else find? other entries := by
  induction entries with
  | nil => simp [put, find?]
  | cons entry rest ih =>
      obtain ⟨k, a⟩ := entry
      by_cases hk : k = key
      · subst hk
        by_cases ho : k = other <;> simp [put, find?, ho]
      · by_cases ho : k = other
        · subst ho
          simp [put, find?, hk, Ne.symm hk]
        · simp [put, find?, hk, ho, ih]

@[simp] theorem get?_insert (m : OrderedMap κ α) (key other : κ) (value : α) :
    (m.insert key value).get? other = if key = other then some value else m.get? other :=
  find?_put key other value m.entries

theorem find?_filter_ne (key other : κ) (entries : List (κ × α)) :
    find? other (entries.filter fun entry => entry.1 ≠ key) =
      if key = other then none else find? other entries := by
  induction entries with
  | nil => simp [find?]
  | cons entry rest ih =>
      obtain ⟨k, a⟩ := entry
      by_cases hk : k = key
      · subst hk
        by_cases ho : k = other <;> simp_all [find?]
      · by_cases ho : k = other
        · subst ho
          simp [find?, hk, Ne.symm hk]
        · simp_all [find?]

@[simp] theorem get?_erase (m : OrderedMap κ α) (key other : κ) :
    (m.erase key).get? other = if key = other then none else m.get? other :=
  find?_filter_ne key other m.entries

end OrderedMap

end AsmNavigator
