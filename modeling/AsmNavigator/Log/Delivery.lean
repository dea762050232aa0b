import AsmNavigator.Files.Change
import AsmNavigator.Log.Line

/-!
# Where log lines go

An event reaches an output if its level passes that of the whole log and that of the
output. Both streams are one: what is printed belongs to the answers alone.
-/

namespace AsmNavigator.Log

open Config

def rank : LogLevel → Nat
  | .debug => 10
  | .info => 20
  | .warning => 30
  | .error => 40
  | .critical => 50

def accepts (logging : Logging) (output : LogOutput) (level : LogLevel) : Bool :=
  rank logging.level ≤ rank level && rank (output.level?.getD logging.level) ≤ rank level

/-- The file of an output, unless it is a stream. -/
def file? (output : LogOutput) : Option Path :=
  if isStreamName output.destination then none else some (Path.ofString output.destination)

inductive Target where
  | stream
  /-- The file at a place of the tree. -/
  | file (place : List String)
  /-- A file that was removed while it was open. -/
  | lost
  deriving DecidableEq, Repr

structure Sink where
  output : LogOutput
  target : Target

/-- Opens an output. Its file is created, with the directories above it. -/
def openOutput (w : World) (output : LogOutput) : Except Fault (Sink × World) :=
  match file? output with
  | none => .ok (⟨output, .stream⟩, w)
  | some path => do
      let file := w.absolute path
      let tree ← w.tree.ensureDirectory w.env.cwd path.parent
      let tree ← tree.openFile w.env.cwd file
      return (⟨output, .file (← tree.locate w.env.cwd file)⟩, { w with tree })

def openOutputs (logging : Logging) (w : World) : Except Fault (List Sink × World) :=
  logging.outputs.foldlM (fun (sinks, w) output => do
    let (sink, w) ← openOutput w output
    return (sinks ++ [sink], w)) ([], w)

def Sink.afterRemoval (removed : List String) (sink : Sink) : Sink :=
  match sink.target with
  | .file place => if removed.isPrefixOf place then { sink with target := .lost } else sink
  | _ => sink

def textFor (time : String) (logging : Logging) (output : LogOutput) (event : Event) : String :=
  if accepts logging output event.level then
    ((event.line? time output.format).map (· ++ "\n")).getD ""
  else ""

def streamText (time : String) (logging : Logging) (events : List Event) : String :=
  let streams := logging.outputs.filter fun output => (file? output).isNone
  String.join (events.flatMap fun event => streams.map fun output =>
    textFor time logging output event)

def Sink.write (time : String) (logging : Logging) (event : Event) (tree : FileTree)
    (sink : Sink) : FileTree :=
  match sink.target with
  | .file place => tree.appendText place (Text.characters (textFor time logging sink.output event))
  | _ => tree

def writeEvents (time : String) (logging : Logging) (sinks : List Sink) (events : List Event)
    (w : World) : World :=
  { w with tree := events.foldl (fun tree event =>
      sinks.foldl (Sink.write time logging event) tree) w.tree }

end AsmNavigator.Log
