import AsmNavigator.Workspace.BuildScript
import AsmNavigator.Workspace.Module

/-!
# Namespaces of a workspace

The build scripts of the crates, in order of the crates' names, bind namespaces to
library directories. A declared binding overrides every earlier one; a guessed one
counts only while there is none.
-/

namespace AsmNavigator.Workspace

open Config BuildScript

structure NamespaceEntry where
  namespaceName : String
  crateDir : Path
  subdir : String
  deriving DecidableEq, Repr

def NamespaceEntry.libraryDir (entry : NamespaceEntry) (libraryDirName : String) : Path :=
  entry.crateDir / libraryDirName / entry.subdir

abbrev NamespaceTable := OrderedMap String NamespaceEntry

namespace NamespaceTable

def addBinding (crateDir : Path) (table : NamespaceTable) (binding : Binding) : NamespaceTable :=
  let entry : NamespaceEntry := ⟨binding.namespaceName, crateDir, binding.subdir⟩
  if binding.declared then table.insert binding.namespaceName entry
  else table.insertIfNew binding.namespaceName entry

/-- The bindings of a crate; none if its build script cannot be read. -/
def bindingsOf (w : World) (layout : Layout) (registry : Registry) (crateDir : Path) :
    Except Fault (List Binding) :=
  orOnRefusal [] do
    return bindings registry.excludedDirKeywords
      (Text.kept (← w.readText (crateDir / layout.buildScript)))

def addCrate (w : World) (layout : Layout) (registry : Registry) (table : NamespaceTable)
    (crateDir : Path) : Except Fault NamespaceTable := do
  return (← bindingsOf w layout registry crateDir).foldl (addBinding crateDir) table

def discover (w : World) (layout : Layout) (registry : Registry) (root : Path) :
    Except Fault NamespaceTable := do
  let crates ← subdirectories w (root / layout.cratesDir)
  crates.foldlM (addCrate w layout registry) OrderedMap.empty

/-- The family that all namespaces belong to. -/
def family : String := "miden::"

/-- The entry of a namespace, also by its name without the family. -/
def lookup? (table : NamespaceTable) (name : String) : Option NamespaceEntry :=
  (table.get? name).or
    (if family.toList.isPrefixOf name.toList then none else table.get? (family ++ name))

end NamespaceTable

end AsmNavigator.Workspace
