import AsmNavigator.Files.World
import AsmNavigator.Text.Lines

/-!
# Reading source files

Reading never fails as such: an unreadable file is an outcome of its own.
-/

namespace AsmNavigator.Source

inductive ReadResult where
  | found (lines : List String)
  | unreadable (fault : Fault)
  deriving DecidableEq, Repr

def read (w : World) (p : Path) : ReadResult :=
  match w.readText p with
  | .ok text => .found (Text.diskLines text)
  | .error fault => .unreadable fault

/-- The lines that were read, none if the file is unreadable. -/
def ReadResult.lines : ReadResult → List String
  | .found lines => lines
  | .unreadable _ => []

/-- A document as the editor sees it: its buffer, or else the file on disk. -/
structure Document where
  path : Path
  buffer? : Option String

/-- A line of a document; the empty line where it has none. -/
def Document.lineAt (w : World) (d : Document) (number : Int) : String :=
  let lines := match d.buffer? with
    | some text => Text.bufferLines text
    | none =>
        match w.readText d.path with
        | .ok text => Text.diskLines text
        | .error _ => [""]
  if number < 0 then "" else lines[number.toNat]?.getD ""

end AsmNavigator.Source
