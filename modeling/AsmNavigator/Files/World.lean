import AsmNavigator.Files.Tree

/-!
# What a query sees

The files, the variables of the environment and the working directory. A query does not
change them.
-/

namespace AsmNavigator

structure Environment where
  vars : OrderedMap String String
  cwd : Path
  /-- The home directories of named accounts. -/
  accounts : List (String × String)
  /-- How deeply collections may be nested in the variables that hold JSON. -/
  nesting : Nat

structure World where
  tree : FileTree
  env : Environment

namespace Environment

def get? (env : Environment) (name : String) : Option String := env.vars.get? name

/-- A directory without the slashes at its end, the top directory if nothing is left. -/
def withoutTrailingSlashes (s : String) : String :=
  let cs := (s.toList.reverse.dropWhile (· == '/')).reverse
  if cs.isEmpty then "/" else String.ofList cs

def homeText? (env : Environment) (account : String) : Option String :=
  (if account = "" then env.get? "HOME" else env.accounts.lookup account).map
    withoutTrailingSlashes

def expandHome (env : Environment) (p : Path) : Except Fault Path :=
  match p.root, p.parts with
  | .none, first :: rest =>
      match first.toList with
      | '~' :: account =>
          match env.homeText? (String.ofList account) with
          | none => .error .noHome
          | some home =>
              if home.toList.head? = some '~' then .error .noHome
              else
                let base := Path.ofString home
                .ok { base with parts := base.parts ++ rest }
      | _ => .ok p
  | _, _ => .ok p

def home (env : Environment) : Except Fault Path := env.expandHome (Path.ofString "~")

end Environment

namespace World

def isFile (w : World) (p : Path) : Except Fault Bool := w.tree.isFile w.env.cwd p

def isDirectory (w : World) (p : Path) : Except Fault Bool := w.tree.isDirectory w.env.cwd p

def exists? (w : World) (p : Path) : Except Fault Bool := w.tree.exists? w.env.cwd p

def readText (w : World) (p : Path) : Except Fault String := w.tree.readText w.env.cwd p

def readBytes (w : World) (p : Path) : Except Fault ByteArray := w.tree.readBytes w.env.cwd p

def list (w : World) (p : Path) : Except Fault (List String) := w.tree.list w.env.cwd p

def absolute (w : World) (p : Path) : Path := p.absoluteFrom w.env.cwd

/-- The place of a path in the tree, with every `..` resolved by the text alone. -/
def place (w : World) (p : Path) : List String := (w.absolute p).parts

end World

end AsmNavigator
