import AsmNavigator.Session.Query

/-!
# Resolving imports

An import expression is resolved by one of four rules, chosen by its shape. A result,
a miss included, is kept until the caches are cleared.
-/

namespace AsmNavigator.Session

open Config Source Workspace

/-- The rules, by the shape of an expression. -/
inductive ImportRule where
  /-- `miden::name::rest`. -/
  | namespaced (name : String) (rest : List String)
  /-- `std::rest`. -/
  | stdlib (rest : List String)
  /-- `$alias::rest`. -/
  | alias (rest : List String)
  /-- A single name. -/
  | bare (name : String)
  | unsupported
  deriving DecidableEq, Repr

namespace ImportRule

def label : ImportRule → String
  | .namespaced .. => "namespaced"
  | .stdlib _ => "stdlib"
  | .alias _ => "alias"
  | .bare _ => "bare"
  | .unsupported => "unsupported"

def ofSegments : List String → ImportRule
  | "miden" :: name :: segment :: rest => .namespaced name (segment :: rest)
  | "std" :: segment :: rest => .stdlib (segment :: rest)
  | head :: rest =>
      if head.toList.head? = some '$' then .alias rest
      else if rest.isEmpty then .bare head
      else .unsupported
  | [] => .unsupported

def ofExpression (expression : String) : ImportRule := ofSegments (splitSegments expression)

end ImportRule

namespace Query

def moduleBelow? (base : Path) (subPath : String) : Query (Option Path) := do
  let context ← read
  let layout := context.settings.layout
  ofExcept
    (findModule context.world layout.moduleExtension layout.moduleIndexFile base subPath)

def directory? (p : Path) : Query Bool := do
  ofExcept ((← read).world.isDirectory p)

def subdirectories (p : Path) : Query (List Path) := do
  ofExcept (Workspace.subdirectories (← read).world p)

/-- The first success of a search over a list. -/
def firstHit (search : α → Query (Option β)) : List α → Query (Option β)
  | [] => return none
  | a :: rest => do
      match ← search a with
      | some b => return some b
      | none => firstHit search rest

def orElse (first second : Query (Option β)) : Query (Option β) := do
  match ← first with
  | some b => return some b
  | none => second

def moduleInSubdirectories? (library : Path) (subPath : String) : Query (Option Path) := do
  firstHit (moduleBelow? · subPath) (← subdirectories library)

/-- A module in the crate that declares its namespace: in the directory of the
declaration, then in those beside it. -/
def moduleOfNamespace? (entry : NamespaceEntry) (subPath : String) : Query (Option Path) := do
  let libraryDir := (← layout).libraryDir
  orElse (moduleBelow? (entry.libraryDir libraryDir) subPath)
    (moduleInSubdirectories? (entry.crateDir / libraryDir) subPath)

/-- A module in a crate: in a directory named like the namespace, then in any other. -/
def moduleOfCrate? (name subPath : String) (crateDir : Path) : Query (Option Path) := do
  let library := crateDir / (← layout).libraryDir
  orElse (moduleBelow? (library / name) subPath) (moduleInSubdirectories? library subPath)

def moduleInWorkspace? (root : Path) (name subPath : String) : Query (Option Path) := do
  let declared ← match ← namespaceNamed? root (NamespaceTable.family ++ name) with
    | some entry => moduleOfNamespace? entry subPath
    | none => pure none
  match declared with
  | some path => return some path
  | none => firstHit (moduleOfCrate? name subPath) (← subdirectories (root / (← layout).cratesDir))

def moduleInProject? (file : Path) (name subPath : String) : Query (Option Path) := do
  let layout ← layout
  let root? ← ofExcept
    (projectRoot? (← read).world layout.libraryDir layout.maxRootDepth file)
  match root? with
  | some root => moduleBelow? (root / layout.libraryDir / name) subPath
  | none => return none

/-- Workspace, project and registry, in this order; a namespace that only the registry
serves is looked for nowhere else. -/
def namespaced? (file : Path) (name : String) (segments : List String) :
    Query (Option Path) := do
  let layout ← layout
  match modulePath? layout.moduleExtension segments with
  | none => return none
  | some subPath =>
      match ((← read).settings.registry.externalNamespaces.get? name).filter (· ≠ "") with
      | some package => registryModule? package subPath
      | none =>
          orElse (do
              match ← workspaceRoot? layout.workspaceManifest layout.maxRootDepth file with
              | some root => moduleInWorkspace? root name subPath
              | none => return none)
            (orElse (moduleInProject? file name subPath)
              (orElse (registryModule? ("miden-" ++ name ++ "-lib") subPath)
                (registryModule? ("miden-" ++ name) subPath)))

def stdlib? (segments : List String) : Query (Option Path) := do
  match modulePath? (← layout).moduleExtension segments with
  | none => return none
  | some subPath => registryModule? (← read).settings.registry.stdlibPackage subPath

def moduleIfDirectory? (fileName : String) (directory : Path) : Query (Option Path) := do
  if ← directory? directory then moduleBelow? directory fileName else return none

/-- The library beside a file or above it, and the shared modules beside that. -/
def aliased? (file : Path) (segments : List String) : Query (Option Path) := do
  match segments.getLast? with
  | none => return none
  | some last =>
      let layout ← layout
      let fileName := last ++ layout.moduleExtension
      firstHit (fun directory =>
          orElse (moduleIfDirectory? fileName (directory / layout.kernelLibDir))
            (moduleIfDirectory? fileName (directory.parent / layout.sharedModulesDir)))
        (file.parent.ancestors layout.maxAliasDepth)

/-- The file's directory and the one above it, each with its library. -/
def bare? (file : Path) (name : String) : Query (Option Path) := do
  let layout ← layout
  let directory := file.parent
  firstHit (moduleBelow? · (name ++ layout.moduleExtension))
    [directory, directory / layout.kernelLibDir, directory.parent,
      directory.parent / layout.kernelLibDir]

def byRule (file : Path) : ImportRule → Query (Option Path)
  | .namespaced name rest => namespaced? file name rest
  | .stdlib rest => stdlib? rest
  | .alias rest => aliased? file rest
  | .bare name => bare? file name
  | .unsupported => return none

def resolve (file : Path) (localName expression : String) : Query (Option Path) := do
  match (← caches).resolutions.get? (file, expression) with
  | some known => return known
  | none =>
      let rule := ImportRule.ofExpression expression
      let resolved := (← byRule file rule).map Path.normalize
      modifyCaches fun c =>
        { c with resolutions := c.resolutions.insert (file, expression) resolved }
      debug "import_resolved"
        [("file", pathFact file), ("local_name", .text localName),
          ("import_path", .text expression), ("rule", .text rule.label),
          ("resolved", .ofOption pathFact resolved)]
      return resolved

end Query

end AsmNavigator.Session
