/-!
# Splitting and joining

Splitting at a separator keeps every piece, the empty ones too, so joining the pieces
with the separator gives the text back.
-/

namespace AsmNavigator.Text

def consHead (c : Char) : List (List Char) → List (List Char)
  | [] => [[c]]
  | piece :: rest => (c :: piece) :: rest

def splitOn (sep : Char) : List Char → List (List Char)
  | [] => [[]]
  | c :: rest => if c = sep then [] :: splitOn sep rest else consHead c (splitOn sep rest)

/-- The pieces between the occurrences of a separator, found from left to right without
overlap. The first argument counts the characters of a separator that are still to be skipped. -/
def splitSkipping (sep : List Char) : Nat → List Char → List (List Char)
  | _, [] => [[]]
  | skip + 1, _ :: rest => splitSkipping sep skip rest
  | 0, c :: rest =>
      if sep.isPrefixOf (c :: rest) then [] :: splitSkipping sep (sep.length - 1) rest
      else consHead c (splitSkipping sep 0 rest)

def split (sep s : String) : List String :=
  (splitSkipping sep.toList 0 s.toList).map String.ofList

theorem splitOn_ne_nil (sep : Char) (cs : List Char) : splitOn sep cs ≠ [] := by
  induction cs with
  | nil => simp [splitOn]
  | cons c rest ih =>
      unfold splitOn
      split
      · simp
      · cases h : splitOn sep rest with
        | nil => exact absurd h ih
        | cons piece pieces => simp [consHead]

theorem intercalate_consHead (sep c : Char) (pieces : List (List Char)) (h : pieces ≠ []) :
    [sep].intercalate (consHead c pieces) = c :: [sep].intercalate pieces := by
  match pieces, h with
  | [piece], _ => simp [consHead, List.intercalate]
  | piece :: next :: rest, _ => simp [consHead, List.intercalate]

/-- Joining the pieces gives the text back. -/
theorem intercalate_splitOn (sep : Char) (cs : List Char) :
    [sep].intercalate (splitOn sep cs) = cs := by
  induction cs with
  | nil => simp [splitOn, List.intercalate]
  | cons c rest ih =>
      unfold splitOn
      split
      · next h =>
          subst h
          cases hs : splitOn c rest with
          | nil => exact absurd hs (splitOn_ne_nil c rest)
          | cons piece pieces =>
              rw [hs] at ih
              simpa [List.intercalate] using ih
      · rw [intercalate_consHead sep c _ (splitOn_ne_nil sep rest), ih]

def containsText (part : List Char) : List Char → Bool
  | [] => part.isEmpty
  | c :: rest => part.isPrefixOf (c :: rest) || containsText part rest

def indexOfText? (part : List Char) : List Char → Option Nat
  | [] => if part.isEmpty then some 0 else none
  | c :: rest =>
      if part.isPrefixOf (c :: rest) then some 0 else (indexOfText? part rest).map (· + 1)

def dropSuffix? (part cs : List Char) : Option (List Char) :=
  if part.isSuffixOf cs then some (cs.take (cs.length - part.length)) else none

def dropPrefix? : List Char → List Char → Option (List Char)
  | [], cs => some cs
  | p :: part, c :: cs => if p = c then dropPrefix? part cs else none
  | _ :: _, [] => none

end AsmNavigator.Text
