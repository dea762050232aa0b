import AsmNavigator.Fault
import AsmNavigator.Text.Blank
import AsmNavigator.Text.Split

/-!
# Documentation comments

The documentation of a definition is the block of `#!` lines above it. Blank lines and
plain comments may stand in between; any other line ends the block.
-/

namespace AsmNavigator.Source

open Text

/-- The documentation in a list of lines read upwards, nearest line first. -/
def docUpwards : List String → List String
  | [] => []
  | line :: rest =>
      let text := (trim line).toList
      match dropPrefix? ['#', '!'] text with
      | some doc => trim (String.ofList doc) :: docUpwards rest
      | none => if text.isEmpty || text.head? = some '#' then docUpwards rest else []

def docComment (lines : List String) (definitionLine : Int) : Except Fault (List String) :=
  if definitionLine > lines.length then .error .noSuchLine
  else .ok (docUpwards (lines.take definitionLine.toNat).reverse).reverse

end AsmNavigator.Source
