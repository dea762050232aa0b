import AsmNavigator.Log.Event
import AsmNavigator.Registry.Locate
import AsmNavigator.Source.Read
import AsmNavigator.Source.Summary
import AsmNavigator.Workspace.Namespaces
import AsmNavigator.Workspace.Roots

/-!
# Queries of a session

A session keeps what it has found out about files, imports and workspaces. A query reads
the world and the settings, uses and fills the caches, and notes log events. A fault ends
a query and keeps what the caches and the journal hold by then.
-/

namespace AsmNavigator.Session

open Config Source Workspace

structure Caches where
  summaries : OrderedMap Path Summary
  /-- Imports that were resolved, by importing file and expression, misses included. -/
  resolutions : OrderedMap (Path × String) (Option Path)
  /-- Namespace tables by workspace root. -/
  namespaces : OrderedMap Path NamespaceTable

def Caches.empty : Caches := ⟨.empty, .empty, .empty⟩

structure State where
  caches : Caches
  /-- Log events, the latest first. -/
  journal : List Log.Event
  requestId? : Option String

def State.start : State := ⟨.empty, [], none⟩

structure Context where
  world : World
  settings : Settings
  /-- The configured registry root, found when the session began. -/
  registryRoot? : Option Path

abbrev Query := ReaderT Context (ExceptT Fault (StateM State))

namespace Query

def run (query : Query α) (context : Context) (state : State) : Except Fault α × State :=
  query context state

def ofExcept : Except Fault α → Query α
  | .ok a => pure a
  | .error fault => throw fault

def caches : Query Caches := return (← get).caches

def modifyCaches (change : Caches → Caches) : Query Unit :=
  modify fun state => { state with caches := change state.caches }

def note (level : LogLevel) (name : Value) (fields : List (String × Value)) : Query Unit :=
  modify fun state =>
    { state with journal := ⟨level, name, fields, state.requestId?⟩ :: state.journal }

def debug (name : String) (fields : List (String × Value)) : Query Unit :=
  note .debug name fields

def layout : Query Layout := return (← read).settings.layout

def pathFact (p : Path) : Value := .text p.toString

/-- The lines of a source file, an unreadable one noted. -/
def readSource (file : Path) : Query ReadResult := do
  let result := Source.read (← read).world file
  match result with
  | .found _ => pure ()
  | .unreadable fault =>
      debug "source_read_failed" [("path", pathFact file), ("error", .text fault.message)]
  return result

/-- The summary of a file, from the cache if it is there. An unreadable file declares
nothing. -/
def summaryOf (file : Path) : Query Summary := do
  match (← caches).summaries.get? file with
  | some summary => return summary
  | none =>
      let summary := Summary.ofLines (← readSource file).lines
      modifyCaches fun c => { c with summaries := c.summaries.insert file summary }
      return summary

def namespaceTable (root : Path) : Query NamespaceTable := do
  match (← caches).namespaces.get? root with
  | some table => return table
  | none =>
      let context ← read
      let table ← ofExcept
        (NamespaceTable.discover context.world context.settings.layout context.settings.registry
          root)
      modifyCaches fun c => { c with namespaces := c.namespaces.insert root table }
      debug "namespaces_discovered" [("root", pathFact root), ("count", .int table.size)]
      return table

def namespaceNamed? (root : Path) (name : String) : Query (Option NamespaceEntry) :=
  return (← namespaceTable root).lookup? name

/-- The nearest workspace root above a file, its absence noted. -/
def workspaceRoot? (manifestName : String) (depth : Nat) (file : Path) :
    Query (Option Path) := do
  let root? ← ofExcept (Workspace.workspaceRoot? (← read).world manifestName depth file)
  if root?.isNone then debug "workspace_root_not_found" [("file", pathFact file)]
  return root?

def registryModule? (package subPath : String) : Query (Option Path) := do
  let context ← read
  let outcome ← ofExcept
    (Registry.find context.world context.settings.layout context.registryRoot? package subPath)
  match outcome with
  | .noRegistry sources => debug "registry_missing" [("path", pathFact sources)]
  | .hit version path =>
      debug "registry_hit"
        [("package", .text package), ("version", .text version), ("path", pathFact path)]
  | .miss => pure ()
  return outcome.path?

def registryRoot : Query Path := do
  let context ← read
  ofExcept (Registry.root context.world context.registryRoot?)

end Query

end AsmNavigator.Session
