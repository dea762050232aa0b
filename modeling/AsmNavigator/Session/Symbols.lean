import AsmNavigator.Session.Resolve
import AsmNavigator.Source.Definition

/-!
# Where names are defined

A name that a file re-exports is followed from file to file until its definition is
reached. A pair of file and name that comes up again ends the walk.
-/

namespace AsmNavigator.Session

open Source

/-- A place in a file, counted from zero. -/
structure Location where
  file : Path
  line : Nat
  column : Nat
  deriving DecidableEq, Repr

inductive Lookup where
  | found (location : Location)
  | notFound
  | unreadable
  deriving DecidableEq, Repr

def Lookup.location? : Lookup → Option Location
  | .found location => some location
  | _ => none

/-- Where a name first occurs in a line. -/
def columnOf (name line : String) : Nat :=
  (Text.indexOfText? name.toList line.toList).getD 0

def firstDefinition? (kind : SymbolKind) (name : String) (lines : List String) :
    Option (Nat × String) :=
  (lines.findIdx? (isDefinition kind name)).map fun number =>
    (number, lines[number]?.getD "")

def definitionIn (kind : SymbolKind) (file : Path) (name : String) : ReadResult → Lookup
  | .unreadable _ => .unreadable
  | .found lines =>
      match firstDefinition? kind name lines with
      | some (number, line) => .found ⟨file, number, columnOf name line⟩
      | none => .notFound

namespace Query

def scan (kind : SymbolKind) (file : Path) (name : String) : Query Lookup :=
  return definitionIn kind file name (← readSource file)

/-- The definition of a procedure in a file, or the line that re-exports it. -/
def locateProcedure (file : Path) (name : String) : Query Lookup := do
  match ← scan .procedure file name with
  | .notFound =>
      match (← summaryOf file).reexports.get? name with
      | none => return .notFound
      | some reexport =>
          let line := (← readSource file).lines[reexport.line]?.getD ""
          return .found ⟨file, reexport.line, columnOf name line⟩
  | lookup => return lookup

def locateConstant (file : Path) (name : String) : Query Lookup :=
  scan .constant file name

def findProcedure? (file : Path) (name : String) : Query (Option Location) :=
  return (← locateProcedure file name).location?

def findConstant? (file : Path) (name : String) : Query (Option Location) :=
  return (← locateConstant file name).location?

/-- Follows re-exports. The first argument bounds the length of the walk, the second holds
the pairs that were met on it. -/
def followFrom : Nat → List (Path × String) → Path → String → Query (Option Location)
  | 0, _, _, _ => return none
  | fuel + 1, visited, file, name => do
      if visited.contains (file, name) then
        debug "reexport_cycle" [("file", pathFact file), ("name", .text name)]
        return none
      let summary ← summaryOf file
      let onward ← match summary.reexports.get? name with
        | none => pure none
        | some reexport => do
            let expression :=
              (summary.imports.get? reexport.moduleName).getD reexport.moduleName
            match ← resolve file reexport.moduleName expression with
            | none => pure none
            | some target =>
                orElse (followFrom fuel ((file, name) :: visited) target reexport.declared)
                  (return (← scan .procedure target reexport.declared).location?)
      match onward with
      | some location => return some location
      | none => return (← scan .procedure file name).location?

/-- More steps than a walk can take: every step but the last leaves another pair of a path
and a name that its file re-exports, on disk or in the cache. -/
def walkBound : Query Nat := do
  let tree := (← read).world.tree
  let cached := (← caches).summaries.values.foldl (fun n s => n + s.reexports.size) 0
  return tree.pathCount * tree.totalBytes + cached + 1

/-- The definition of a procedure, re-exports followed. There may be any number of them: the
stack on which their places wait has no limit here. -/
def findSource? (file : Path) (name : String) : Query (Option Location) := do
  followFrom (← walkBound) [] file name

end Query

end AsmNavigator.Session
