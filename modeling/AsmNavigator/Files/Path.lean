import AsmNavigator.Text.Split

/-!
# Paths

A path is a root and a list of components. Empty components and single dots are
dropped when a path is read, `..` is kept; exactly two leading slashes are a root of
their own. The empty path is written as a dot.
-/

namespace AsmNavigator

inductive Root where
  | none
  | slash
  | doubleSlash
  deriving DecidableEq, Repr

structure Path where
  root : Root
  parts : List String
  deriving DecidableEq, Repr

namespace Path

instance : Inhabited Path := ⟨⟨.none, []⟩⟩

/-- The root that a number of leading slashes denotes. -/
def rootOfSlashes : Nat → Root
  | 0 => .none
  | 2 => .doubleSlash
  | _ => .slash

def isKept (part : List Char) : Bool :=
  !part.isEmpty && part != ['.']

def ofString (s : String) : Path :=
  let cs := s.toList
  { root := rootOfSlashes (cs.takeWhile (· == '/')).length
    parts := ((Text.splitOn '/' cs).filter isKept).map String.ofList }

def rootText : Root → String
  | .none => ""
  | .slash => "/"
  | .doubleSlash => "//"

def toString (p : Path) : String :=
  if p.root = .none && p.parts.isEmpty then "."
  else rootText p.root ++ String.intercalate "/" p.parts

instance : ToString Path := ⟨Path.toString⟩

def isAbsolute (p : Path) : Bool := p.root != .none

/-- `p` followed by `q`; an absolute `q` stands alone. -/
def append (p q : Path) : Path :=
  if q.isAbsolute then q else { p with parts := p.parts ++ q.parts }

instance : HDiv Path Path Path := ⟨append⟩

instance : HDiv Path String Path := ⟨fun p s => p.append (ofString s)⟩

/-- The path without its last component. A path without components is its own parent. -/
def parent (p : Path) : Path := { p with parts := p.parts.dropLast }

def name (p : Path) : String := p.parts.getLast?.getD ""

/-- Adds a component to a reversed stack of components, where `..` cancels the component
before it. Above a root it has no effect; a relative path keeps it. -/
def pushPart (absolute : Bool) (stack : List String) (part : String) : List String :=
  if part = ".." then
    match stack with
    | [] => if absolute then [] else [".."]
    | top :: rest => if top = ".." then ".." :: stack else rest
  else part :: stack

/-- The path with every `..` resolved by the text alone. -/
def normalize (p : Path) : Path :=
  { p with parts := (p.parts.foldl (pushPart p.isAbsolute) []).reverse }

/-- The normalized absolute path, relative ones being taken from `base`. -/
def absoluteFrom (p base : Path) : Path := (base / p).normalize

def relativeTo? (p base : Path) : Option Path :=
  if p.root = base.root && base.parts.isPrefixOf p.parts then
    some ⟨.none, p.parts.drop base.parts.length⟩
  else none

/-- `p` and its parents, nearest first, at most `depth` entries; the path that is its own
parent is the last. -/
def ancestors (p : Path) : Nat → List Path
  | 0 => []
  | depth + 1 => p :: if p.parent = p then [] else p.parent.ancestors depth

def relative (parts : List String) : Path := ⟨.none, parts⟩

@[simp] theorem parent_root (p : Path) : p.parent.root = p.root := rfl

@[simp] theorem normalize_root (p : Path) : p.normalize.root = p.root := rfl

end Path

end AsmNavigator
