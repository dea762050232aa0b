import AsmNavigator.CommandLine.Run

/-!
# Snapshots

A run works on a snapshot of the files and the variables that it may look at. The
snapshot is a JSON object; a file is given by its text, a directory by null.
-/

namespace AsmNavigator.CommandLine

structure Snapshot where
  cwd : Path
  files : List (String × Option String)
  vars : List (String × String)
  accounts : List (String × String)
  time : String
  /-- The number of cells in a line. -/
  width : Nat
  /-- How deeply collections may be nested in JSON. -/
  nesting : Nat

namespace Snapshot

def textOf : Value → String
  | .scalar (.text s) => s
  | value => value.shown

def textMembers (value : Value) (key : String) : List (String × Value) :=
  match value.get? key with
  | some (.map entries) => entries.map fun entry => (textOf (.scalar entry.1), entry.2)
  | _ => []

def numberOf (builtIn : Nat) : Option Value → Nat
  | some (.scalar (.int n)) => n.toNat
  | _ => builtIn

def ofValue (value : Value) : Snapshot :=
  let texts (key : String) := (textMembers value key).map fun entry => (entry.1, textOf entry.2)
  { cwd := Path.ofString (((value.get? "cwd").map textOf).getD "/")
    files := (textMembers value "files").map fun entry =>
      (entry.1, if entry.2.isNull then none else some (textOf entry.2))
    vars := texts "variables"
    accounts := texts "accounts"
    time := ((value.get? "time").map textOf).getD ""
    width := numberOf 80 (value.get? "width")
    nesting := numberOf 900 (value.get? "nesting") }

def addFile (cwd : Path) (tree : FileTree) (entry : String × Option String) : FileTree :=
  let parts := ((Path.ofString entry.1).absoluteFrom cwd).parts
  match entry.2 with
  | some text => tree.writeFile parts (Text.characters text).toUTF8
  | none => tree.makeDirectories parts

def world (snapshot : Snapshot) : World :=
  { tree := snapshot.files.foldl (addFile snapshot.cwd)
      (FileTree.empty.makeDirectories snapshot.cwd.parts)
    env := ⟨OrderedMap.ofList snapshot.vars, snapshot.cwd, snapshot.accounts, snapshot.nesting⟩ }

def userFile (w : World) : Path :=
  match w.env.home with
  | .ok home => home / ".config" / "masmnav" / "config.yaml"
  | .error _ => Path.ofString "~/.config/masmnav/config.yaml"

/-- Twelve hexadecimal digits. -/
def requestName (number : Nat) : String := String.ofList (Text.hexDigits 12 number)

def host (snapshot : Snapshot) (input : String) : Host :=
  { world := snapshot.world
    userFile := userFile snapshot.world
    time := snapshot.time
    newId := requestName
    nesting := snapshot.nesting
    input
    width := snapshot.width }

end Snapshot

def Crash.text : Crash → String
  | .faulty fault => fault.kind ++ ": " ++ fault.message ++ "\n"
  | .unloaded fault => fault.message ++ "\n"
  | .interrupted cause => cause.kind ++ ": " ++ cause.message ++ "\n"
  | .unrendered flaw => flaw.message ++ "\n"

def Result.errorText (result : Result) : String :=
  result.errors ++ (result.crash?.map Crash.text).getD ""

/-- Runs the program on a snapshot, which is the first line of the input. -/
def runOnSnapshot (args : List String) (snapshotLine input : String) : Result :=
  match Json.read snapshotLine.length (Text.kept snapshotLine) with
  | .ok value => run ((Snapshot.ofValue value).host input) args
  | .error fault => (Ending.crashed (.interrupted (.unreadable fault))).result "" ""

end AsmNavigator.CommandLine
