import AsmNavigator.Registry.VersionOrder
import AsmNavigator.Workspace.Module

/-!
# Modules of external packages

The registry keeps the sources of packages in directories named after package and
version, below directories of indexes. The newest version that holds a module wins.
-/

namespace AsmNavigator.Registry

open Config Workspace

/-- The registry's root: the configured one, else the one of the environment, else the
usual place in the home directory. -/
def root (w : World) (configured? : Option Path) : Except Fault Path :=
  match configured?, w.env.get? "CARGO_HOME" with
  | some path, _ => .ok path
  | none, some text =>
      if text ≠ "" then .ok (Path.ofString text) else w.env.home.map (· / ".cargo")
  | none, none => w.env.home.map (· / ".cargo")

/-- The configured root with a leading `~` replaced; an empty one counts as none. -/
def configuredRoot? (env : Environment) (settings : Config.Registry) :
    Except Fault (Option Path) :=
  match settings.root? with
  | some text =>
      if text ≠ "" then (env.expandHome (Path.ofString text)).map some else .ok none
  | none => .ok none

inductive Outcome where
  | noRegistry (sources : Path)
  | hit (version : String) (path : Path)
  | miss
  deriving DecidableEq, Repr

def Outcome.path? : Outcome → Option Path
  | .hit _ path => some path
  | _ => none

/-- The entries of an index directory that belong to a package, newest first. -/
def versions (w : World) (package : String) (indexDir : Path) : Except Fault (List String) := do
  let names ← orOnRefusal [] (w.list indexDir)
  VersionKey.descending (names.filter fun name => (package ++ "-").toList.isPrefixOf name.toList)

/-- The first version in an index directory that holds a module. -/
def findInIndex (w : World) (layout : Layout) (package subPath : String) (indexDir : Path) :
    Except Fault (Option (String × Path)) := do
  let versions ← versions w package indexDir
  firstHit (fun version => do
    let base := indexDir / Path.relative [version] / layout.libraryDir
    let found ← findModule w layout.moduleExtension layout.moduleIndexFile base subPath
    return found.map (version, ·)) versions

def find (w : World) (layout : Layout) (configured? : Option Path) (package subPath : String) :
    Except Fault Outcome := do
  let sources := (← root w configured?) / "registry" / "src"
  if !(← w.isDirectory sources) then return .noRegistry sources
  let indexDirs ← subdirectories w sources
  match ← firstHit (findInIndex w layout package subPath) indexDirs with
  | some (version, path) => return .hit version path
  | none => return .miss

end AsmNavigator.Registry
