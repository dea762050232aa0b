/-!
# Commands and their help

The commands with what they take, and the pages that describe them.
-/

namespace AsmNavigator.CommandLine

/-- Something that begins with a dash. -/
structure Switch where
  long : String
  short? : Option Char := none
  /-- What stands for the value, if it takes one. -/
  value? : Option String := none
  /-- The lines of its description. -/
  help : List String
  deriving DecidableEq, Repr

def helpSwitch : Switch := { long := "--help", help := ["Show this message and exit."] }

def versionSwitch : Switch := { long := "--version", help := ["Show the version and exit."] }

def verboseSwitch : Switch :=
  { long := "--verbose", short? := some 'v', help := ["Enable debug logging"] }

def configRootSwitch : Switch :=
  { long := "--config-root"
    value? := some "PATH"
    help := ["Directory holding .masmnav/config.yaml (default: current", "directory)"] }

def jsonSwitch (help : String) : Switch := { long := "--json", help := [help] }

inductive Command where
  | definition
  | hover
  | namespaces
  | resolve
  | serve
  deriving DecidableEq, Repr

namespace Command

def all : List Command := [.definition, .hover, .namespaces, .resolve, .serve]

def name : Command → String
  | .definition => "definition"
  | .hover => "hover"
  | .namespaces => "namespaces"
  | .resolve => "resolve"
  | .serve => "serve"

def ofName? (name : String) : Option Command := all.find? fun command => command.name = name

def arguments : Command → List String
  | .definition | .hover => ["FILE", "LINE", "COLUMN"]
  | .namespaces => ["[ROOT]"]
  | .resolve => ["FILE", "IMPORT_PATH"]
  | .serve => []

def switches : Command → List Switch
  | .definition => [jsonSwitch "Output as JSON (zero-based)", helpSwitch]
  | .hover | .serve => [helpSwitch]
  | .namespaces | .resolve => [jsonSwitch "Output as JSON", helpSwitch]

def summary : Command → String
  | .definition => "Find the definition of the identifier at LINE:COLUMN in FILE."
  | .hover => "Show documentation for the procedure call at LINE:COLUMN in FILE."
  | .namespaces => "List namespaces declared by the crates' build scripts under ROOT."
  | .resolve => "Resolve IMPORT_PATH as if it were imported by FILE."
  | .serve => "Answer JSON queries read line by line from stdin."

/-- The summary where there is less room. -/
def shortSummary : Command → String
  | .hover => "Show documentation for the procedure call at LINE:COLUMN in..."
  | .namespaces => "List namespaces declared by the crates' build scripts under..."
  | command => command.summary

def details : Command → List String
  | .definition => ["LINE and COLUMN are 1-based."]
  | .hover =>
      ["LINE and COLUMN are 1-based. Output is markdown; it is rendered when stdout is",
        "a terminal."]
  | .namespaces => ["ROOT is the workspace root (default: current directory)."]
  | .resolve => ["FILE need not exist; only its directory is used as the starting point."]
  | .serve =>
      ["Each line of stdin is one request; each response is written as one line to",
        "stdout. Logs go to stderr."]

end Command

/-! ## Pages -/

/-- What a page is about: the program, or one of its commands. -/
abbrev Topic := Option Command

namespace Topic

def program : String := "cli"

def path : Topic → String
  | none => program
  | some command => program ++ " " ++ command.name

def switches : Topic → List Switch
  | none => [versionSwitch, verboseSwitch, configRootSwitch, helpSwitch]
  | some command => command.switches

def usage (topic : Topic) : String :=
  let arguments := match topic with
    | none => ["COMMAND", "[ARGS]..."]
    | some command => command.arguments
  String.intercalate " " ("Usage:" :: topic.path :: "[OPTIONS]" :: arguments)

end Topic

def padRight (width : Nat) (s : String) : String :=
  s ++ String.ofList (List.replicate (width - s.length) ' ')

/-- Two columns, the second one beginning two blanks behind the longest entry of the first. -/
def twoColumns (rows : List (String × List String)) : List String :=
  let width := rows.foldl (fun n row => max n row.1.length) 0
  rows.flatMap fun (left, right) =>
    right.zipIdx.map fun (line, index) =>
      "  " ++ padRight (width + 2) (if index = 0 then left else "") ++ line

def Switch.label (switch : Switch) : String :=
  let short := match switch.short? with
    | some c => String.ofList ['-', c, ',', ' ']
    | none => ""
  let value := match switch.value? with
    | some v => " " ++ v
    | none => ""
  short ++ switch.long ++ value

def description : Topic → List (List String)
  | none => [["masmnav - go-to-definition and hover for Miden assembly."]]
  | some command => [[command.summary], command.details]

def helpPage (topic : Topic) : String :=
  let paragraphs := (description topic).flatMap fun paragraph =>
    "" :: paragraph.map ("  " ++ ·)
  let options := twoColumns (topic.switches.map fun switch => (switch.label, switch.help))
  let commands := match topic with
    | none =>
        "" :: "Commands:" ::
          twoColumns (Command.all.map fun command => (command.name, [command.shortSummary]))
    | some _ => []
  String.join
    ((topic.usage :: paragraphs ++ "" :: "Options:" :: options ++ commands).map (· ++ "\n"))

end AsmNavigator.CommandLine
