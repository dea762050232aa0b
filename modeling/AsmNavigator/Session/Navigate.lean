import AsmNavigator.Session.Symbols
import AsmNavigator.Source.Call
import AsmNavigator.Source.DocComment

/-!
# Definitions and documentation at a cursor
-/

namespace AsmNavigator.Session

open Source

/-- The ways to find a definition, in the order in which they are tried. -/
inductive Strategy where
  | fromImport
  | fromQualifiedCall
  | fromLocalCall
  | fromLocalDefinition
  | fromImportedModules
  deriving DecidableEq, Repr

def Strategy.all : List Strategy :=
  [.fromImport, .fromQualifiedCall, .fromLocalCall, .fromLocalDefinition, .fromImportedModules]

def Strategy.label : Strategy → String
  | .fromImport => "_from_import"
  | .fromQualifiedCall => "_from_qualified_call"
  | .fromLocalCall => "_from_local_call"
  | .fromLocalDefinition => "_from_local_definition"
  | .fromImportedModules => "_from_imported_modules"

/-- What a strategy works on: the file, the line, the word and the file's summary. -/
structure Site where
  file : Path
  line : String
  word : Word
  summary : Summary

def moduleStart (file : Path) : Location := ⟨file, 0, 0⟩

def namesConstant (i : Import) (word : String) : Bool :=
  isConstantName word && i.segments.getLast? == some word && i.segments.length ≥ 2

/-- The word at a column, unless it stands in a comment or a string. -/
def navigableWord? (line : String) (column : Int) : Option Word :=
  (wordAt line column).filter fun word => !isExcluded (word.before line)

namespace Query

/-- The beginning of the module that an import names. -/
def importedModule? (file : Path) (i : Import) : Query (Option Location) :=
  return (← resolve file i.lastSegment i.path).map moduleStart

/-- The constant that an import names, in the module of the segments before it. -/
def importedConstant? (file : Path) (i : Import) (word : String) : Query (Option Location) := do
  let moduleSegments := i.segments.dropLast
  match ← resolve file (moduleSegments.getLast?.getD "") (joinSegments moduleSegments) with
  | some target => findConstant? target word
  | none => return none

def fromImport (site : Site) : Query (Option Location) := do
  match import? site.line.toList with
  | none => return none
  | some i =>
      let word := site.word.text
      orElse (if i.alias? = some word then importedModule? site.file i else return none) (do
        if !i.segments.contains word then return none
        orElse (if namesConstant i word then importedConstant? site.file i word else return none)
          (importedModule? site.file i))

def moduleNamed? (file : Path) (name : String) (summary : Summary) : Query (Option Path) :=
  resolve file name ((summary.imports.get? name).getD name)

def fromQualifiedCall (site : Site) : Query (Option Location) := do
  match callOfWord? site.line site.word with
  | none => return none
  | some call =>
      match ← moduleNamed? site.file call.moduleName site.summary with
      | none => return none
      | some target =>
          if site.word.start = call.moduleStart then return some (moduleStart target)
          else orElse (findSource? target call.procedure) (findProcedure? target call.procedure)

/-- The first success of a search over the imported modules, each tried once. -/
def firstInImported (search : Path → Query (Option β)) (file : Path) :
    List Path → List (String × String) → Query (Option β)
  | _, [] => return none
  | seen, (name, expression) :: rest => do
      match ← resolve file name expression with
      | none => firstInImported search file seen rest
      | some target =>
          if seen.contains target then firstInImported search file seen rest
          else orElse (search target) (firstInImported search file (target :: seen) rest)

def inImportedModules? (site : Site) (procedure : String) : Query (Option Location) :=
  firstInImported (findProcedure? · procedure) site.file [] site.summary.imports.entries

def fromLocalCall (site : Site) : Query (Option Location) := do
  match localCall? site.line site.word with
  | none => return none
  | some procedure =>
      orElse (findProcedure? site.file procedure) (inImportedModules? site procedure)

def byStrategy (site : Site) : Strategy → Query (Option Location)
  | .fromImport => fromImport site
  | .fromQualifiedCall => fromQualifiedCall site
  | .fromLocalCall => fromLocalCall site
  | .fromLocalDefinition => findProcedure? site.file site.word.text
  | .fromImportedModules => inImportedModules? site site.word.text

/-- Tries strategies in order and notes the one that succeeds. -/
def tryStrategies (site : Site) (strategies : List Strategy) : Query (Option Location) :=
  firstHit (fun strategy => do
    match ← byStrategy site strategy with
    | none => return none
    | some location =>
        debug "definition_found"
          [("word", .text site.word.text), ("strategy", .text strategy.label),
            ("file", pathFact location.file), ("line", .int location.line)]
        return some location) strategies

def definitionBy (strategies : List Strategy) (path : Path) (line : String) (column : Int) :
    Query (Option Location) := do
  let file := (← read).world.absolute path
  match navigableWord? line column with
  | none => return none
  | some word => tryStrategies ⟨file, line, word, ← summaryOf file⟩ strategies

def definition (path : Path) (line : String) (column : Int) : Query (Option Location) :=
  definitionBy Strategy.all path line column

/-- The documentation of a procedure, in a fence, or a pointer to its file. -/
def hoverText (procedure : String) (file : Path) (doc : List String) : String :=
  if doc.isEmpty then "**" ++ procedure ++ "** in `" ++ file.name ++ "`"
  else "```\n" ++ Text.kept (String.intercalate "\n" doc) ++ "\n```"

def documentation? (target : Path) (procedure : String) : Query (Option String) := do
  let lines := (← readSource target).lines
  match firstDefinition? .procedure procedure lines with
  | some (number, _) =>
      return some (hoverText procedure target (← ofExcept (docComment lines number)))
  | none =>
      match ← findSource? target procedure with
      | none => return none
      | some location =>
          let lines := (← readSource location.file).lines
          return some
            (hoverText procedure location.file (← ofExcept (docComment lines location.line)))

/-- The documentation of the procedure that is called at a column of a line. -/
def hover (path : Path) (line : String) (column : Int) : Query (Option String) := do
  let file := (← read).world.absolute path
  match navigableWord? line column with
  | none => return none
  | some word =>
      match callOfWord? line word with
      | none => return none
      | some call =>
          if word.start ≠ call.procedureStart then return none
          match ← moduleNamed? file call.moduleName (← summaryOf file) with
          | none => return none
          | some target => documentation? target call.procedure

def definitionIn (document : Document) (line column : Int) : Query (Option Location) := do
  definition document.path (document.lineAt (← read).world line) column

def hoverIn (document : Document) (line column : Int) : Query (Option String) := do
  hover document.path (document.lineAt (← read).world line) column

def resolveImport (path : Path) (expression : String) : Query (Option Path) := do
  resolve ((← read).world.absolute path) ((splitSegments expression).getLast?.getD "") expression

/-- Forgets what a changed file may have changed: its summary, every resolution, and the
namespaces if it is a build script or a manifest. -/
def fileChanged (path : Path) : Query Unit := do
  let file := (← read).world.absolute path
  let layout ← layout
  modifyCaches fun c =>
    { summaries := c.summaries.erase file
      resolutions := .empty
      namespaces :=
        if file.name = layout.buildScript || file.name = layout.workspaceManifest then .empty
        else c.namespaces }
  debug "file_changed" [("path", pathFact file)]

def clear : Query Unit := modifyCaches fun _ => Caches.empty

/-- Forgets the summary of one file; whether there was one. -/
def forgetSummary (file : Path) : Query Bool := do
  let known := (← caches).summaries.contains file
  modifyCaches fun c => { c with summaries := c.summaries.erase file }
  return known

/-- Forgets the namespaces of one workspace; whether they were known. -/
def forgetNamespaces (root : Path) : Query Bool := do
  let known := (← caches).namespaces.contains root
  modifyCaches fun c => { c with namespaces := c.namespaces.erase root }
  return known

end Query

end AsmNavigator.Session
