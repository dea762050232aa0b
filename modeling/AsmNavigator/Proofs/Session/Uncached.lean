import AsmNavigator.Session.Navigate

/-! # Answers without caches

What the summary of a file, the namespaces of a workspace and the resolution of an import
are when nothing is kept from earlier queries. Each is a function of the context alone:
it reads files and settings, and neither caches nor journal. The other modules compare
the queries of a session with these functions.
-/

namespace AsmNavigator.Session

open Config Source Workspace

def orElse (first second : Except Fault (Option β)) : Except Fault (Option β) := do
  match ← first with
  | some b => return some b
  | none => second

namespace Context

variable (c : Context)

/-- The summary of a file as it is on disk; an unreadable file declares nothing. -/
def summary (file : Path) : Summary :=
  Summary.ofLines (Source.read c.world file).lines

/-- The namespaces of a workspace as its build scripts are on disk. -/
def table (root : Path) : Except Fault NamespaceTable :=
  NamespaceTable.discover c.world c.settings.layout c.settings.registry root

/-! ## The rules for imports -/

def moduleBelow (base : Path) (subPath : String) : Except Fault (Option Path) :=
  findModule c.world c.settings.layout.moduleExtension c.settings.layout.moduleIndexFile base
    subPath

def moduleInSubdirectories (library : Path) (subPath : String) : Except Fault (Option Path) := do
  firstHit (c.moduleBelow · subPath) (← subdirectories c.world library)

def moduleOfNamespace (entry : NamespaceEntry) (subPath : String) :
    Except Fault (Option Path) :=
  orElse (c.moduleBelow (entry.libraryDir c.settings.layout.libraryDir) subPath)
    (c.moduleInSubdirectories (entry.crateDir / c.settings.layout.libraryDir) subPath)

def moduleOfCrate (name subPath : String) (crateDir : Path) : Except Fault (Option Path) :=
  orElse (c.moduleBelow (crateDir / c.settings.layout.libraryDir / name) subPath)
    (c.moduleInSubdirectories (crateDir / c.settings.layout.libraryDir) subPath)

def moduleDeclared (found? : Option NamespaceEntry) (subPath : String) :
    Except Fault (Option Path) :=
  match found? with
  | some entry => c.moduleOfNamespace entry subPath
  | none => .ok none

def moduleInCrates (root : Path) (name subPath : String) : Except Fault (Option Path) := do
  firstHit (c.moduleOfCrate name subPath)
    (← subdirectories c.world (root / c.settings.layout.cratesDir))

def moduleInWorkspace (root : Path) (name subPath : String) : Except Fault (Option Path) := do
  let table ← c.table root
  orElse (c.moduleDeclared (table.lookup? (NamespaceTable.family ++ name)) subPath)
    (c.moduleInCrates root name subPath)

def workspaceRoot (file : Path) : Except Fault (Option Path) :=
  workspaceRoot? c.world c.settings.layout.workspaceManifest c.settings.layout.maxRootDepth file

def projectRoot (file : Path) : Except Fault (Option Path) :=
  projectRoot? c.world c.settings.layout.libraryDir c.settings.layout.maxRootDepth file

def moduleInWorkspaceOf (file : Path) (name subPath : String) : Except Fault (Option Path) := do
  match ← c.workspaceRoot file with
  | some root => c.moduleInWorkspace root name subPath
  | none => return none

def moduleInProject (file : Path) (name subPath : String) : Except Fault (Option Path) := do
  match ← c.projectRoot file with
  | some root => c.moduleBelow (root / c.settings.layout.libraryDir / name) subPath
  | none => return none

def registryModule (package subPath : String) : Except Fault (Option Path) := do
  return (← Registry.find c.world c.settings.layout c.registryRoot? package subPath).path?

/-- The package of a namespace that only the registry serves. -/
def externalPackage? (name : String) : Option String :=
  (c.settings.registry.externalNamespaces.get? name).filter (· ≠ "")

def namespaced (file : Path) (name : String) (segments : List String) :
    Except Fault (Option Path) :=
  match modulePath? c.settings.layout.moduleExtension segments with
  | none => .ok none
  | some subPath =>
      match c.externalPackage? name with
      | some package => c.registryModule package subPath
      | none =>
          orElse (c.moduleInWorkspaceOf file name subPath)
            (orElse (c.moduleInProject file name subPath)
              (orElse (c.registryModule ("miden-" ++ name ++ "-lib") subPath)
                (c.registryModule ("miden-" ++ name) subPath)))

def stdlib (segments : List String) : Except Fault (Option Path) :=
  match modulePath? c.settings.layout.moduleExtension segments with
  | none => .ok none
  | some subPath => c.registryModule c.settings.registry.stdlibPackage subPath

def moduleIfDirectory (fileName : String) (directory : Path) : Except Fault (Option Path) := do
  if ← c.world.isDirectory directory then c.moduleBelow directory fileName else return none

def aliased (file : Path) (segments : List String) : Except Fault (Option Path) :=
  match segments.getLast? with
  | none => .ok none
  | some last =>
      let fileName := last ++ c.settings.layout.moduleExtension
      firstHit (fun directory =>
          orElse (c.moduleIfDirectory fileName (directory / c.settings.layout.kernelLibDir))
            (c.moduleIfDirectory fileName (directory.parent / c.settings.layout.sharedModulesDir)))
        (file.parent.ancestors c.settings.layout.maxAliasDepth)

def bareBases (file : Path) : List Path :=
  [file.parent, file.parent / c.settings.layout.kernelLibDir, file.parent.parent,
    file.parent.parent / c.settings.layout.kernelLibDir]

def bare (file : Path) (name : String) : Except Fault (Option Path) :=
  firstHit (c.moduleBelow · (name ++ c.settings.layout.moduleExtension)) (c.bareBases file)

def byRule (file : Path) : ImportRule → Except Fault (Option Path)
  | .namespaced name rest => c.namespaced file name rest
  | .stdlib rest => c.stdlib rest
  | .alias rest => c.aliased file rest
  | .bare name => c.bare file name
  | .unsupported => .ok none

def resolution (file : Path) (expression : String) : Except Fault (Option Path) := do
  return (← c.byRule file (ImportRule.ofExpression expression)).map Path.normalize

end Context

end AsmNavigator.Session
