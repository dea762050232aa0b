import AsmNavigator.Workspace.Module

/-!
# Workspace and project roots

Both are looked for upwards from the directory of a file, nearest first, at a limited
number of levels.
-/

namespace AsmNavigator.Workspace

/-- The text that makes a manifest the manifest of a workspace. -/
def workspaceMarker : String := "[workspace]"

def isWorkspaceManifest (w : World) (manifest : Path) : Except Fault Bool :=
  orOnRefusal false do
    return Text.containsText workspaceMarker.toList (← w.readText manifest).toList

def firstDirectory (test : Path → Except Fault Bool) (directories : List Path) :
    Except Fault (Option Path) :=
  firstHit (fun directory => do return if ← test directory then some directory else none)
    directories

/-- The nearest directory above a file with a workspace manifest. -/
def workspaceRoot? (w : World) (manifestName : String) (depth : Nat) (file : Path) :
    Except Fault (Option Path) :=
  firstDirectory (fun directory => do
    let manifest := directory / manifestName
    if ← w.isFile manifest then isWorkspaceManifest w manifest else return false)
    (file.parent.ancestors depth)

/-- The nearest directory above a file with a library directory. -/
def projectRoot? (w : World) (libraryDir : String) (depth : Nat) (file : Path) :
    Except Fault (Option Path) :=
  firstDirectory (fun directory => w.isDirectory (directory / libraryDir))
    (file.parent.ancestors depth)

end AsmNavigator.Workspace
