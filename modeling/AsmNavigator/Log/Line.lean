import AsmNavigator.Config.Values
import AsmNavigator.Data.Json.Writer
import AsmNavigator.Log.Event

/-!
# Log lines

An event is written for people, with its facts in the order of their names, or for
programs as one JSON object. A line for people may be followed by the text of a stack and
of an exception; if one of these is no text, there is no line at all.
-/

namespace AsmNavigator.Log

open Config

def levelText : LogLevel → String
  | .debug => "debug"
  | .info => "info"
  | .warning => "warning"
  | .error => "error"
  | .critical => "critical"

def levelOfMethod? : String → Option LogLevel
  | "debug" => some .debug
  | "info" | "msg" => some .info
  | "warning" | "warn" => some .warning
  | "error" | "exception" => some .error
  | "critical" | "fatal" => some .critical
  | _ => none

/-- Ways of logging that exist and write nothing. -/
def isSilentMethod (method : String) : Bool :=
  method = "notset" ||
    ["debug", "info", "msg", "warning", "warn", "error", "exception", "critical", "fatal",
      "notset"].any fun name => method = "a" ++ name

/-- The facts that a way of logging adds, unless they are given. -/
def fieldsOfMethod (method : String) (fields : List (String × Value)) : List (String × Value) :=
  if method = "exception" && (fields.lookup "exc_info").isNone then
    fields ++ [("exc_info", .bool true)]
  else fields

/-- Names that are kept for the delivery of an event. -/
def reserved : List String := ["_record", "_from_structlog"]

/-- All facts of an event at a time, in order of their appearance. -/
def Event.facts (time : String) (event : Event) : OrderedMap String Value :=
  let fields := event.fields.filter fun field => !reserved.contains field.1
  let own : OrderedMap String Value := (OrderedMap.ofList fields)
    |>.insert "event" event.name
    |>.insert "level" (.text (levelText event.level))
    |>.insert "timestamp" (.text time)
  match event.requestId? with
  | some id => own.insert "request_id" (.text id)
  | none => own

def needsQuotes (c : Char) : Bool :=
  c == ' ' || c == '\t' || c == '=' || c == '\r' || c == '\n' || c == '"' || c == Text.apostrophe

/-- A fact's value: a text as it is where that is unambiguous. -/
def factText : Value → String
  | .scalar (.text s) => if s.toList.any needsQuotes then Text.quoted s else s
  | value => value.quoted

/-- The facts that have a place of their own in a line, with the form that they take there. -/
def columns : List (String × (String → String)) :=
  [("timestamp", id), ("level", fun s => "[" ++ s ++ "]"), ("event", id),
    ("logger", fun s => "[" ++ s ++ "]"), ("logger_name", fun s => "[" ++ s ++ "]")]

/-- Facts that are shown on lines of their own, if at all. -/
def hidden : List String := ["stack", "exception", "exc_info"]

def dropTrailingSpaces (s : String) : String :=
  String.ofList (s.toList.reverse.dropWhile (· == ' ')).reverse

def Event.factsLine (time : String) (event : Event) : String :=
  let facts := event.facts time
  let placed := columns.filterMap fun column =>
    (facts.get? column.1).map fun value => column.2 value.shown
  let others := facts.entries.filter fun fact =>
    !(columns.map (·.1)).contains fact.1 && !hidden.contains fact.1
  let shown := (others.mergeSort fun a b => a.1 ≤ b.1).map fun fact =>
    fact.1 ++ "=" ++ factText fact.2
  dropTrailingSpaces (String.intercalate " " ((placed ++ shown).filter (· ≠ "")))

def ownLines (facts : OrderedMap String Value) (name : String) : Option (Option String) :=
  match facts.get? name with
  | none | some (.scalar .null) => some none
  | some (.scalar (.text s)) => some (some s)
  | some _ => none

/-- What stands between a stack and an exception. -/
def separatorLine : String := String.ofList (List.replicate 79 '=')

/-- The lines for people, or nothing if they cannot be written. -/
def Event.consoleLine? (time : String) (event : Event) : Option String := do
  let facts := event.facts time
  let stack? ← ownLines facts "stack"
  let exception? ← ownLines facts "exception"
  let fails := exception?.isSome || (facts.get? "exc_info").any fun value => !value.isEmpty
  let stack := match stack? with
    | none => ""
    | some s => "\n" ++ s ++ (if fails then "\n\n" ++ separatorLine ++ "\n" else "")
  let exception := match exception? with
    | none => ""
    | some s => "\n" ++ s
  let line := event.factsLine time ++ stack ++ exception
  if Text.holdsSurrogate line then none else some line

def Event.jsonLine (time : String) (event : Event) : String :=
  Json.write Json.spaced (.object (event.facts time).entries)

def Event.line? (time : String) : LogFormat → Event → Option String
  | .console, event => event.consoleLine? time
  | .json, event => some (event.jsonLine time)

end AsmNavigator.Log
