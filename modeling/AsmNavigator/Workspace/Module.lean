import AsmNavigator.Config.Types
import AsmNavigator.Files.World

/-!
# Modules on disk

A module is a file with the module extension, or a directory with an index file.
-/

namespace AsmNavigator.Workspace

open Config

/-- The path of a module below its library: the last segment names the file, those before
it are directories. -/
def modulePath? (extension : String) (segments : List String) : Option String :=
  match segments.getLast? with
  | none => none
  | some last => some (String.intercalate "/" (segments.dropLast ++ [last ++ extension]))

/-- A module path without the extension. Without an extension the module is the library
itself, so nothing of the path remains. -/
def moduleStem (extension subPath : String) : String :=
  if extension.isEmpty then ""
  else
    match Text.dropSuffix? extension.toList subPath.toList with
    | some stem => String.ofList stem
    | none => subPath

/-- The file of a module below a directory: the direct file first, then the index file. -/
def findModule (w : World) (extension indexFile : String) (base : Path) (subPath : String) :
    Except Fault (Option Path) := do
  let direct := base / subPath
  if ← w.isFile direct then return some direct
  let indexed := base / moduleStem extension subPath / indexFile
  if ← w.isFile indexed then return some indexed
  return none

def orOnRefusal (fallback : α) : Except Fault α → Except Fault α
  | .error (.os _ _) => .ok fallback
  | outcome => outcome

/-- The subdirectories of a directory by name; none if it cannot be listed. -/
def subdirectories (w : World) (directory : Path) : Except Fault (List Path) :=
  orOnRefusal [] do
    let names ← w.list directory
    let directories ← names.filterM fun name => w.isDirectory (directory / Path.relative [name])
    return (directories.mergeSort (· ≤ ·)).map fun name => directory / Path.relative [name]

/-- The first success of a search over a list. -/
def firstHit (search : α → Except Fault (Option β)) : List α → Except Fault (Option β)
  | [] => .ok none
  | a :: rest => do
      match ← search a with
      | some b => return some b
      | none => firstHit search rest

end AsmNavigator.Workspace
