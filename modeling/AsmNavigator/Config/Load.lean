import AsmNavigator.Config.Variables
import AsmNavigator.Data.Yaml.Reader
import AsmNavigator.Report

/-!
# Loading the settings

The built-in values are overridden by the user's file, that by the project's file, that
by the variables of the environment, and those by the values that the caller gives.
Mappings are merged key by key, everything else is replaced. The files are merged first;
then the caller's values go over the variables, and both over the files.
-/

namespace AsmNavigator.Config

inductive LoadFault where
  | reported (report : Report)
  /-- A file that is no document, or holds a value that cannot be. -/
  | unreadable (path : String) (fault : Yaml.Fault)
  /-- A variable that cannot be read. -/
  | badVariable (cause : Variables.Unreadable)
  /-- A key of the whole that is no text. -/
  | badKey
  /-- A refused value that is too long to be shown. -/
  | unshowable
  | faulty (fault : Fault)

namespace LoadFault

def message : LoadFault → String
  | .reported report => report.message
  | .unreadable path fault =>
      if fault.kind?.isSome then fault.message
      else (Report.unreadableConfig path fault.message).message
  | .badVariable cause =>
      if cause.fault.isDepth then cause.fault.message
      else
        s!"error parsing value for field \"{cause.sectionName}\" from source \"EnvSettingsSource\""
  | .badKey => "keywords must be strings"
  | .unshowable => Numeral.unshowableMessage
  | .faulty fault => fault.message

/-- The kind of a fault, as clients see it; nothing if it is reported. -/
def kind? : LoadFault → Option String
  | .reported _ => none
  | .unreadable _ fault => fault.kind?
  | .badVariable cause =>
      if cause.fault.isDepth then cause.fault.kind? else some "SettingsError"
  | .badKey => some "TypeError"
  | .unshowable => some "ValueError"
  | .faulty fault => some fault.kind

def report? : LoadFault → Option Report
  | .reported report => some report
  | .unreadable path fault =>
      if fault.kind?.isSome then none else some (.unreadableConfig path fault.message)
  | _ => none

end LoadFault

def ofFault : Except Fault α → Except LoadFault α
  | .ok a => .ok a
  | .error fault => .error (.faulty fault)

def documentEntries (path : Path) (stream : Yaml.Stream) :
    Except LoadFault (List (Scalar × Value)) :=
  match Yaml.read stream with
  | .error fault => .error (.unreadable path.toString fault)
  | .ok value =>
      match value.opened with
      | .map entries => .ok entries
      | value =>
          if value.isEmpty then .ok []
          else .error (.reported (.unreadableConfig path.toString "top level must be a mapping"))

/-- The entries of a configuration file; none if it does not exist. -/
def fileEntries (w : World) (path : Path) : Except LoadFault (List (Scalar × Value)) := do
  if !(← ofFault (w.exists? path)) then return []
  documentEntries path (.ofBytes (← ofFault (w.readBytes path)))

def projectFile (root : Path) : Path := root / ".masmnav" / "config.yaml"

/-- What sources say together, later ones over earlier ones. The last two are merged first. -/
def merged (sources : List (List (Scalar × Value))) : List (Scalar × Value) :=
  sources.foldr Value.mergeEntries []

def combine (env : Environment) (sources : List (List (Scalar × Value))) :
    Except LoadFault Settings :=
  let entries := merged sources
  let isText : Scalar → Bool
    | .text _ => true
    | _ => false
  if !(entries.all fun entry => isText entry.1) then .error .badKey
  else
    match Settings.ofEntriesStrict env entries with
    | .valid settings => .ok settings
    | .faulty fault => .error (.faulty fault)
    | .invalid [] => .error .badKey
    | .invalid (issue :: _) =>
        if issue.input.isShowable then
          .error (.reported (.invalidSetting issue.field issue.input issue.message))
        else .error .unshowable

/-- The root of the configuration, which must be a directory if it is given. -/
def configRoot (w : World) (root? : Option Path) : Except LoadFault Path := do
  match root? with
  | none => return w.env.cwd
  | some root =>
      if ← ofFault (w.isDirectory root) then return root
      else throw (.reported (.missingConfig root.toString))

/-- Loads the settings. `userFile` is the user's own file, `given` are the caller's values. -/
def load (w : World) (userFile : Path) (root? : Option Path) (given : List (Scalar × Value)) :
    Except LoadFault Settings := do
  let root ← configRoot w root?
  let user ← fileEntries w userFile
  let project ← fileEntries w (projectFile root)
  match Variables.entries w.env with
  | .error cause => throw (.badVariable cause)
  | .ok vars => combine w.env [Value.mergeEntries user project, vars, given]

end AsmNavigator.Config
