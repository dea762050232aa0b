import AsmNavigator.Text.Blank
import AsmNavigator.Text.Split

/-!
# Words

The stretches of a text that blanks divide, without the blanks or with those around them.
-/

namespace AsmNavigator.Text

/-- The pieces between single blanks, the empty ones too. -/
def blankPieces : List Char → List (List Char)
  | [] => [[]]
  | c :: rest => if isBlank c then [] :: blankPieces rest else consHead c (blankPieces rest)

def words (cs : List Char) : List (List Char) := (blankPieces cs).filter fun word => !word.isEmpty

/-- Cuts a text before every word but the first. -/
def cutAtWords : List Char → List (List Char)
  | [] => []
  | [c] => [[c]]
  | c :: next :: rest =>
      if isBlank c && !isBlank next then [c] :: cutAtWords (next :: rest)
      else consHead c (cutAtWords (next :: rest))

/-- The words of a text, each with the blanks behind it and the first with those before it. A
text of blanks has none. -/
def spacedWords (cs : List Char) : List (List Char) :=
  match cutAtWords (cs.dropWhile isBlank) with
  | [] => []
  | word :: rest => (cs.takeWhile isBlank ++ word) :: rest

theorem flatten_consHead (c : Char) (pieces : List (List Char)) :
    (consHead c pieces).flatten = c :: pieces.flatten := by
  cases pieces <;> simp [consHead]

/-- Cutting loses nothing. -/
theorem flatten_cutAtWords (cs : List Char) : (cutAtWords cs).flatten = cs := by
  fun_induction cutAtWords cs with
  | case1 => rfl
  | case2 c => rfl
  | case3 c next rest h ih => simp [ih]
  | case4 c next rest h ih => simp [flatten_consHead, ih]

end AsmNavigator.Text
