import AsmNavigator.Fault
import AsmNavigator.Files.Path
import AsmNavigator.OrderedMap
import AsmNavigator.Text.Utf8

/-!
# File trees

A tree maps the component lists of its files, directories and symbolic links to what they
hold; the top directory is always there. A path is looked up component by component, `..`
included, so it can fail half way. Where it meets a link it goes on at the place to which
the link leads, and `..` goes up from there.

Every file can be read and every directory searched: there are no permissions, so nothing is
refused for the lack of one. Nor is there a limit to the number of links on the way of a
path, or to the length of what a link names. Where names are sorted, the stand-in for a
byte that cannot be decoded comes after every other character.
-/

namespace AsmNavigator

inductive Entry where
  | file (bytes : ByteArray)
  | directory

def Entry.isDirectory : Entry → Bool
  | .directory => true
  | .file _ => false

/-- What stands at a place of a tree. A link is kept with the place to which it leads once
all further links on the way there are followed. If it leads nowhere, nothing or another
link stands at that place. -/
inductive Node where
  | entry (held : Entry)
  | link (target : List String)

namespace Node

@[match_pattern] abbrev file (bytes : ByteArray) : Node := .entry (.file bytes)

@[match_pattern] abbrev directory : Node := .entry .directory

def held? : Node → Option Entry
  | .entry held => some held
  | .link _ => none

def link? : Node → Option (List String)
  | .entry _ => none
  | .link target => some target

@[simp] theorem held?_entry (held : Entry) : (Node.entry held).held? = some held := rfl

@[simp] theorem held?_link (target : List String) : (Node.link target).held? = none := rfl

@[simp] theorem link?_entry (held : Entry) : (Node.entry held).link? = none := rfl

@[simp] theorem link?_link (target : List String) : (Node.link target).link? = some target := rfl

end Node

structure FileTree where
  nodes : OrderedMap (List String) Node

namespace FileTree

instance : Inhabited FileTree := ⟨⟨.empty⟩⟩

def empty : FileTree := ⟨.empty⟩

def entryAt? (tree : FileTree) (place : List String) : Option Entry :=
  if place.isEmpty then some .directory else (tree.nodes.get? place).bind Node.held?

def link? (tree : FileTree) (place : List String) : Option (List String) :=
  (tree.nodes.get? place).bind Node.link?

/-- The longest name of a single file, in bytes. -/
def nameLimit : Nat := 255

/-- The length in bytes from which on a whole path is refused. -/
def pathLimit : Nat := 4096

/-- The file or directory that is reached at a place, behind a link if one stands there. -/
def reached? (tree : FileTree) (place : List String) : Option (List String) :=
  match tree.entryAt? place with
  | some _ => some place
  | none => (tree.link? place).filter fun target => (tree.entryAt? target).isSome

def enter (tree : FileTree) (place : List String) (part : String) :
    Except OsCause (List String) :=
  if !(tree.entryAt? place).any Entry.isDirectory then .error .notADirectory
  else if part = ".." then .ok place.dropLast
  else if Text.nameSize part > nameLimit then .error .nameTooLong
  else
    match tree.reached? (place ++ [part]) with
    | some next => .ok next
    | none => .error .notFound

def walk (tree : FileTree) : List String → List String → Except OsCause (List String)
  | place, [] => .ok place
  | place, part :: rest =>
      match tree.enter place part with
      | .ok next => tree.walk next rest
      | .error cause => .error cause

def hasNull (p : Path) : Bool :=
  p.parts.any fun part => part.toList.contains '\x00'

/-- The place of a path, relative ones being taken from the directory `cwd`. -/
def locate (tree : FileTree) (cwd : Path) (p : Path) : Except Fault (List String) :=
  match Text.SurrogateRun.inFileName? p.toString with
  | some run => .error (.unencodable run)
  | none =>
      if hasNull p then .error .nullCharacter
      else if Text.nameSize p.toString ≥ pathLimit then .error (.os .nameTooLong p.toString)
      else
        match tree.walk [] (if p.isAbsolute then p.parts else cwd.parts ++ p.parts) with
        | .ok place => .ok place
        | .error cause => .error (.os cause p.toString)

def stat (tree : FileTree) (cwd p : Path) : Except Fault Entry :=
  match tree.locate cwd p with
  | .error fault => .error fault
  | .ok place =>
      match tree.entryAt? place with
      | some entry => .ok entry
      | none => .error (.os .notFound p.toString)

/-- What a path leads to, if anything. A path that cannot exist counts as absent, except
that an over-long name is a fault. -/
def probe (tree : FileTree) (cwd p : Path) : Except Fault (Option Entry) :=
  match tree.stat cwd p with
  | .ok entry => .ok (some entry)
  | .error (.os .nameTooLong path) => .error (.os .nameTooLong path)
  | .error _ => .ok none

def isFile (tree : FileTree) (cwd p : Path) : Except Fault Bool := do
  match ← tree.probe cwd p with
  | some (.file _) => return true
  | _ => return false

def isDirectory (tree : FileTree) (cwd p : Path) : Except Fault Bool := do
  match ← tree.probe cwd p with
  | some .directory => return true
  | _ => return false

def exists? (tree : FileTree) (cwd p : Path) : Except Fault Bool := do
  return (← tree.probe cwd p).isSome

def readBytes (tree : FileTree) (cwd p : Path) : Except Fault ByteArray := do
  match ← tree.stat cwd p with
  | .file bytes => return bytes
  | .directory => throw (.os .isADirectory p.toString)

def readText (tree : FileTree) (cwd p : Path) : Except Fault String := do
  return Text.Utf8.decode (← tree.readBytes cwd p)

/-- The names in a directory, in the order of the tree. -/
def namesIn (tree : FileTree) (place : List String) : List String :=
  tree.nodes.entries.filterMap fun node =>
    if node.1.dropLast = place then node.1.getLast? else none

def list (tree : FileTree) (cwd p : Path) : Except Fault (List String) := do
  let place ← tree.locate cwd p
  match tree.entryAt? place with
  | some .directory => return tree.namesIn place
  | some (.file _) => throw (.os .notADirectory p.toString)
  | none => throw (.os .notFound p.toString)

def totalBytes (tree : FileTree) : Nat :=
  tree.nodes.entries.foldl (fun n node =>
    match node.2 with
    | .file bytes => n + bytes.size
    | .directory | .link _ => n) 0

/-- More than the paths that lead somewhere: they are made of names that the tree lists and
of `..`, and are shorter than the limit. -/
def pathCount (tree : FileTree) : Nat := 3 * Nat.pow (tree.nodes.size + 2) pathLimit

/-- Adds the directories on the way from `place` down a list of components. -/
def makeDirectoriesFrom (tree : FileTree) (place : List String) : List String → FileTree
  | [] => tree
  | part :: rest =>
      let place := place ++ [part]
      makeDirectoriesFrom ⟨tree.nodes.insertIfNew place .directory⟩ place rest

def makeDirectories (tree : FileTree) (parts : List String) : FileTree :=
  tree.makeDirectoriesFrom [] parts

/-- Creates or replaces a file, with the directories above it. -/
def writeFile (tree : FileTree) (parts : List String) (bytes : ByteArray) : FileTree :=
  ⟨(tree.makeDirectories parts.dropLast).nodes.insert parts (.file bytes)⟩

/-- Removes a file or a link, or a directory with all that is below it. -/
def remove (tree : FileTree) (parts : List String) : FileTree :=
  ⟨⟨tree.nodes.entries.filter fun node => !parts.isPrefixOf node.1⟩⟩

end FileTree

end AsmNavigator
