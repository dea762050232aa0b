import AsmNavigator.Files.World

/-!
# Creating directories and files

Changes that can be refused, as opposed to building a tree from scratch.
-/

namespace AsmNavigator.FileTree

def makeDirectory (tree : FileTree) (cwd p : Path) : Except Fault FileTree :=
  let refuse (cause : OsCause) : Except Fault FileTree := .error (.os cause p.toString)
  match tree.locate cwd p with
  | .ok _ => refuse .exists
  | .error (.os .notFound _) =>
      match tree.walk [] (if p.isAbsolute then p.parent.parts else cwd.parts ++ p.parent.parts) with
      | .ok place =>
          let place := place ++ [p.name]
          -- A link that leads nowhere is in the way too.
          if (tree.link? place).isSome then refuse .exists
          else .ok ⟨tree.nodes.insert place .directory⟩
      | .error cause => refuse cause
  | .error fault => .error fault

/-- Creates a directory, which may exist already. -/
def makeOrKeep (tree : FileTree) (cwd p : Path) : Except Fault FileTree :=
  match tree.makeDirectory cwd p with
  | .error (.os .notFound path) => .error (.os .notFound path)
  | .error (.os cause path) => do
      if ← tree.isDirectory cwd p then return tree else throw (.os cause path)
  | outcome => outcome

/-- Creates a directory and those above it that are missing. It may exist already. -/
def ensureDirectoryFrom (cwd : Path) : Nat → FileTree → Path → Except Fault FileTree
  | 0, _, p => .error (.os .notFound p.toString)
  | depth + 1, tree, p =>
      match tree.makeOrKeep cwd p with
      | .error (.os .notFound path) =>
          if p.parent = p then .error (.os .notFound path)
          else do (← ensureDirectoryFrom cwd depth tree p.parent).makeOrKeep cwd p
      | outcome => outcome

def ensureDirectory (tree : FileTree) (cwd p : Path) : Except Fault FileTree :=
  ensureDirectoryFrom cwd (p.parts.length + 1) tree p

/-- Makes sure that there is a file to which lines can be added. It is created behind a link
that leads nowhere, if there is a directory for it. -/
def openFile (tree : FileTree) (cwd p : Path) : Except Fault FileTree :=
  match tree.stat cwd p with
  | .ok (.file _) => .ok tree
  | .ok .directory => .error (.os .isADirectory p.toString)
  | .error (.os .notFound path) =>
      match tree.walk [] (if p.isAbsolute then p.parent.parts else cwd.parts ++ p.parent.parts) with
      | .ok place =>
          let place := (tree.link? (place ++ [p.name])).getD (place ++ [p.name])
          if (tree.entryAt? place.dropLast).any Entry.isDirectory then
            .ok ⟨tree.nodes.insert place (.file .empty)⟩
          else .error (.os .notFound path)
      | .error cause => .error (.os cause path)
  | .error fault => .error fault

def appendText (tree : FileTree) (place : List String) (text : String) : FileTree :=
  match tree.entryAt? place with
  | some (.file bytes) => ⟨tree.nodes.insert place (.file (bytes ++ text.toUTF8))⟩
  | _ => tree

end AsmNavigator.FileTree
