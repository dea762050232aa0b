import AsmNavigator.CommandLine.Arguments
import AsmNavigator.CommandLine.Table
import AsmNavigator.Config.Load
import AsmNavigator.Log.Delivery
import AsmNavigator.Markup.Render
import AsmNavigator.Serve.Loop

/-!
# Running a command

A call is taken apart, the settings are loaded, and the command is run in a session of
its own. Answers are printed; log lines and messages go to the error stream.
-/

namespace AsmNavigator.CommandLine

open Config Session

/-- What a run depends on besides its arguments. -/
structure Host where
  world : World
  /-- The user's configuration file. -/
  userFile : Path
  /-- The time in log lines. -/
  time : String
  /-- Names for requests, by their number. -/
  newId : Nat → String
  /-- How deeply collections may be nested in a request. -/
  nesting : Nat
  input : String
  /-- The number of cells in a line of tables. -/
  width : Nat

inductive Crash where
  | faulty (fault : Fault)
  /-- The settings could not be loaded. -/
  | unloaded (fault : LoadFault)
  /-- The requests could not all be answered. -/
  | interrupted (cause : Serve.Interruption)
  /-- An answer has flawed markup. -/
  | unrendered (flaw : Markup.Flaw)

inductive Ending where
  /-- It has printed what it had to print. -/
  | finished (exitCode : Nat)
  /-- It has nothing to show. -/
  | failed (message : String)
  | misused (topic : Topic) (misuse : Misuse)
  /-- The page of a call without arguments. -/
  | unguided
  | crashed (crash : Crash)

structure Result where
  exitCode : Nat
  output : String
  errors : String
  crash? : Option Crash := none

namespace Ending

def exitCode : Ending → Nat
  | .finished code => code
  | .failed _ | .crashed _ => 1
  | .misused .. | .unguided => 2

def text : Ending → String
  | .finished _ | .crashed _ => ""
  | .failed message => "Error: " ++ message ++ "\n"
  | .misused topic misuse =>
      topic.usage ++ "\nTry '" ++ topic.path ++ " --help' for help.\n\nError: " ++
        misuse.message ++ "\n"
  | .unguided => helpPage none

def crash? : Ending → Option Crash
  | .crashed crash => some crash
  | _ => none

def result (output log : String) (ending : Ending) : Result :=
  { exitCode := ending.exitCode
    output
    errors := log ++ ending.text
    crash? := ending.crash? }

end Ending

structure Printed where
  output : String
  ending : Ending := .finished 0

def print (text : String) : Printed := { output := text ++ "\n" }

def fail (message : String) : Printed := { output := "", ending := .failed message }

/-- Prints a text that may have flawed markup. -/
def printRendered : Except Markup.Flaw String → Printed
  | .ok text => print text
  | .error flaw => { output := "", ending := .crashed (.unrendered flaw) }

/-! ## Texts of answers -/

def positionText (file : Path) (line column : Int) : String := s!"{file}:{line}:{column}"

/-- A place that is counted from zero as editors expect it, counted from one. -/
def placeText (file : Path) (line column : Int) : String :=
  positionText file (line + 1) (column + 1)

def locationText (location : Location) : String :=
  placeText location.file location.line location.column

open Workspace in
def sortedEntries (table : NamespaceTable) : List NamespaceEntry :=
  (table.entries.mergeSort fun a b => a.1 ≤ b.1).map (·.2)

open Workspace in
def namespacesValue (libraryDir : String) (entries : List NamespaceEntry) : Value :=
  .object (entries.map fun entry =>
    (entry.namespaceName,
      .object
        [("crate_dir", .text entry.crateDir.toString), ("asm_subdir", .text entry.subdir),
          ("library_dir", .text (entry.libraryDir libraryDir).toString)]))

open Workspace in
/-- The namespaces as a table. What its cells hold is markup. -/
def namespacesTable (width : Nat) (root : Path) (entries : List NamespaceEntry) :
    Except Markup.Flaw String := do
  let columns ←
    [("namespace", (·.namespaceName)),
      ("crate", fun entry : NamespaceEntry =>
        ((entry.crateDir.relativeTo? root).getD entry.crateDir).toString),
      ("directory", (·.subdir))].mapM
        fun (title, text) => (title :: entries.map text).mapM Markup.render
  return String.intercalate "\n" (Table.lines width columns)

/-- The answer if there are no namespaces. What it holds of the path is markup. -/
def noNamespacesText (root : Path) : Except Markup.Flaw String :=
  Markup.render s!"[yellow]No namespaces found[/yellow] under {root}"

/-! ## Tasks -/

inductive Task where
  | definition (file : Path) (line column : Int) (json : Bool)
  | hover (file : Path) (line column : Int)
  | resolve (file : Path) (expression : String) (json : Bool)
  | namespaces (root : Path) (json : Bool)
  | serve

/-- A document of which nothing is unsaved. -/
def onDisk (file : Path) : Source.Document := ⟨file, none⟩

def runDefinition (file : Path) (line column : Int) (json : Bool) : Query Printed := do
  match ← Query.definitionIn (onDisk file) (line - 1) (column - 1) with
  | none => return fail ("No definition found at " ++ positionText file line column)
  | some location =>
      return print
        (if json then Json.write Json.spaced (Serve.locationValue location)
          else locationText location)

def runHover (file : Path) (line column : Int) : Query Printed := do
  match ← Query.hoverIn (onDisk file) (line - 1) (column - 1) with
  | none => return fail ("Nothing to show at " ++ positionText file line column)
  | some text => return print text

def runResolve (file : Path) (expression : String) (json : Bool) : Query Printed := do
  let resolved? ← Query.resolveImport file expression
  if json then
    let value := Value.object
      [("import_path", .text expression), ("resolved", .ofOption Query.pathFact resolved?)]
    return { print (Json.write Json.spaced value) with
      ending := .finished (if resolved?.isSome then 0 else 1) }
  else
    match resolved? with
    | some path => return print path.toString
    | none => return fail s!"Could not resolve '{expression}' from {file}"

/-- An absolute path with a single slash as its root. -/
def rootOf (w : World) (path : Path) : Path := { w.absolute path with root := .slash }

def runNamespaces (width : Nat) (path : Path) (json : Bool) : Query Printed := do
  let root := rootOf (← read).world path
  let entries := sortedEntries (← Query.namespaceTable root)
  if json then
    return print (Json.write Json.spaced (namespacesValue (← Query.layout).libraryDir entries))
  else if entries.isEmpty then return printRendered (noNamespacesText root)
  else return printRendered (namespacesTable width root entries)

def runServe (host : Host) : Query Printed := do
  Query.note .info "serve_started" []
  let lines := (Text.splitOn '\n' (Text.foldLineEnds host.input.toList)).map String.ofList
  let outcome ← Serve.serve host.nesting host.newId lines
  let output := Text.kept
    (String.join (outcome.responses.map fun response => response.line ++ "\n"))
  match outcome.broken? with
  | none => return { output }
  | some cause => return { output, ending := .crashed (.interrupted cause) }

def Task.run (host : Host) : Task → Query Printed
  | .definition file line column json => runDefinition file line column json
  | .hover file line column => runHover file line column
  | .resolve file expression json => runResolve file expression json
  | .namespaces root json => runNamespaces host.width root json
  | .serve => runServe host

/-! ## From arguments to tasks -/

def pathArgument (w : World) (command : Command) (name : String) (kind : PathKind) (s : String) :
    Except Ending Path :=
  match namedNode? w.tree w.env.cwd s with
  | .error fault => .error (.crashed (.faulty fault))
  | .ok node? =>
      match pathFlaw? kind node? s with
      | some reason => .error (.misused (some command) (.invalidArgument name reason))
      | none => .ok (Path.ofString s)

def misusedBy (command : Command) : Except Misuse α → Except Ending α
  | .ok a => .ok a
  | .error misuse => .error (.misused (some command) misuse)

def required (command : Command) (name : String) : List String →
    Except Ending (String × List String)
  | [] => .error (.misused (some command) (.missingArgument name))
  | s :: rest => .ok (s, rest)

def noMore (command : Command) : List String → Except Ending Unit
  | [] => .ok ()
  | rest => .error (.misused (some command) (.extraArguments rest))

def placeArguments (w : World) (command : Command) (arguments : List String) :
    Except Ending (Path × Int × Int) := do
  let (s, rest) ← required command "FILE" arguments
  let file ← pathArgument w command "FILE" .existingFile s
  let (s, rest) ← required command "LINE" rest
  let line ← misusedBy command (countArgument "LINE" s)
  let (s, rest) ← required command "COLUMN" rest
  let column ← misusedBy command (countArgument "COLUMN" s)
  noMore command rest
  return (file, line, column)

def taskOf (w : World) (command : Command) (given : Given) : Except Ending Task := do
  let json := given.switches.any fun entry => entry.1 = "--json"
  match command with
  | .definition =>
      let (file, line, column) ← placeArguments w command given.arguments
      return .definition file line column json
  | .hover =>
      let (file, line, column) ← placeArguments w command given.arguments
      return .hover file line column
  | .resolve =>
      let (s, rest) ← required command "FILE" given.arguments
      let file ← pathArgument w command "FILE" .file s
      let (expression, rest) ← required command "IMPORT_PATH" rest
      noMore command rest
      return .resolve file expression json
  | .namespaces =>
      let root ← pathArgument w command "[ROOT]" .existingDirectory
        (given.arguments.head?.getD ".")
      noMore command given.arguments.tail
      return .namespaces root json
  | .serve =>
      noMore command given.arguments
      return .serve

/-! ## The whole run -/

def sessionContext (w : World) (settings : Settings) : Except Fault Context := do
  return ⟨w, settings, ← Registry.configuredRoot? w.env settings.registry⟩

def perform (host : Host) (settings : Settings) (w : World) (task : Task) : Result :=
  match sessionContext w settings with
  | .error fault => (Ending.crashed (.faulty fault)).result "" ""
  | .ok context =>
      let (outcome, state) := (task.run host).run context State.start
      let log := Log.streamText host.time settings.logging state.journal.reverse
      match outcome with
      | .ok printed => printed.ending.result printed.output log
      | .error fault => (Ending.crashed (.faulty fault)).result "" log

def loadEnding (fault : LoadFault) : Ending :=
  match fault.report? with
  | some report => .failed report.text
  | none => .crashed (.unloaded fault)

/-- The settings of a run; the log tells everything if the run is verbose. -/
def settingsOf (host : Host) (given : Given) : Except Ending Settings :=
  match load host.world host.userFile ((given.value? configRootSwitch).map Path.ofString) [] with
  | .error fault => .error (loadEnding fault)
  | .ok settings =>
      .ok
        (if given.has verboseSwitch then
          { settings with logging := { settings.logging with level := .debug } }
        else settings)

def runCommand (host : Host) (given : Given) (command : Command) (args : List String) : Result :=
  match settingsOf host given with
  | .error ending => ending.result "" ""
  | .ok settings =>
      match Log.openOutputs settings.logging host.world with
      | .error fault => (Ending.crashed (.faulty fault)).result "" ""
      | .ok (_, w) =>
          match takeApart command.switches true args with
          | .error misuse => (Ending.misused (some command) misuse).result "" ""
          | .ok own =>
              if own.has helpSwitch then (Ending.finished 0).result (helpPage (some command)) ""
              else
                match taskOf w command own with
                | .error ending => ending.result "" ""
                | .ok task => perform host settings w task

def versionText : String := "masmnav, version 0.1.0\n"

/-- The first of the switches that answer by themselves. -/
def firstInfo? (given : Given) : Option String :=
  given.switches.findSome? fun entry =>
    if entry.1 = versionSwitch.long then some versionText
    else if entry.1 = helpSwitch.long then some (helpPage none)
    else none

/-- What becomes of a name that is no command: behind two dashes it may still be a switch. -/
def unknownCommand (name : String) (rest : List String) : Result :=
  let similar := Text.closeMatches name (Command.all.map (·.name))
  let unknown := (Ending.misused none (.noSuchCommand name similar)).result "" ""
  if !looksLikeSwitch name then unknown
  else
    match takeApart (Topic.switches none) false (name :: rest) with
    | .error misuse => (Ending.misused none misuse).result "" ""
    | .ok given =>
        match firstInfo? given with
        | some text => (Ending.finished 0).result text ""
        | none => unknown

/-- The configuration root is looked up before anything else, which a null character spoils. -/
def rootFault? (host : Host) (given : Given) : Option Fault :=
  match (given.value? configRootSwitch).map (namedNode? host.world.tree host.world.env.cwd) with
  | some (.error fault) => some fault
  | _ => none

def run (host : Host) (args : List String) : Result :=
  if args.isEmpty then Ending.unguided.result "" ""
  else
    match takeApart (Topic.switches none) false args with
    | .error misuse => (Ending.misused none misuse).result "" ""
    | .ok given =>
        match firstInfo? given, rootFault? host given, given.arguments with
        | some text, _, _ => (Ending.finished 0).result text ""
        | none, some fault, _ => (Ending.crashed (.faulty fault)).result "" ""
        | none, none, [] => (Ending.misused none .missingCommand).result "" ""
        | none, none, name :: rest =>
            match Command.ofName? name with
            | none => unknownCommand name rest
            | some command => runCommand host given command rest

end AsmNavigator.CommandLine
