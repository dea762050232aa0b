import AsmNavigator.Data.Value

/-!
# Deep merge

Merging descends where both sides hold a mapping; everywhere else the overriding side
replaces the base. Keys of the base keep their place and new keys follow.
-/

namespace AsmNavigator.Value

mutual

def overlay : Option Value → Value → Value
  | some base, .map later =>
      match base.opened with
      | .map entries => .map (mergeEntries entries later)
      | _ => .map later
  | some base, .knot label (.map later) =>
      match base.opened with
      | .map entries =>
          replaceLink label (.knot label (.map later)) (.map (mergeEntries entries later))
      | _ => .knot label (.map later)
  | _, value => value

/-- `base` with the entries of another mapping merged in, from left to right. -/
def mergeEntries (base : List (Scalar × Value)) : List (Scalar × Value) → List (Scalar × Value)
  | [] => base
  | (key, value) :: rest =>
      mergeEntries (Scalar.put key (overlay (Scalar.find? key base) value) base) rest

end

def merge (base later : Value) : Value :=
  overlay (some base) later

end AsmNavigator.Value
