/-!
# Scanning for occurrences

An occurrence is looked for at every position from left to right; after a hit the scan
goes on where the occurrence ends.
-/

namespace AsmNavigator.Text

/-- All occurrences. `matchAt` gets the position and the text from there on, and returns what
it found and how many characters that takes. -/
def findAllFrom (matchAt : Nat → List Char → Option (β × Nat)) : Nat → Nat → List Char → List β
  | _, _, [] => []
  | position, skip + 1, _ :: rest => findAllFrom matchAt (position + 1) skip rest
  | position, 0, c :: rest =>
      match matchAt position (c :: rest) with
      | some (found, length) => found :: findAllFrom matchAt (position + 1) (length - 1) rest
      | none => findAllFrom matchAt (position + 1) 0 rest

def findAll (matchAt : Nat → List Char → Option (β × Nat)) (cs : List Char) : List β :=
  findAllFrom matchAt 0 0 cs

end AsmNavigator.Text
