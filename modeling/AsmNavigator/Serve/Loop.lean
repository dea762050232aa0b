import AsmNavigator.Data.Json.Reader
import AsmNavigator.Serve.Response
import AsmNavigator.Session.Navigate
import AsmNavigator.Text.Blank

/-!
# Answering requests

Requests are answered line by line in one session, in the order of their arrival. Every
line that is not blank gets one response, until a request ends the loop. A request that
is too large to be read and a response that cannot be encoded end it too, without a
response. How deeply a request may be nested depends on what the stack has left.
-/

namespace AsmNavigator.Serve

open Session Schema

inductive Interruption where
  /-- A request with a number that is too long, or collections nested too deeply. -/
  | unreadable (fault : Json.Fault)
  /-- A response with surrogates. -/
  | unwritable (run : Text.SurrogateRun)

namespace Interruption

def kind : Interruption → String
  | .unreadable fault => fault.kind?.getD "ValueError"
  | .unwritable _ => "PydanticSerializationError"

def message : Interruption → String
  | .unreadable fault => fault.message
  | .unwritable run => "Error serializing to JSON: UnicodeEncodeError: " ++ run.message

end Interruption

inductive Reply where
  | respond (response : Response)
  | stop (id? : Option RequestId)
  | breakOff (cause : Interruption)

def Reply.response? : Reply → Option Response
  | .respond response => some response
  | .stop id? => some { id? }
  | .breakOff _ => none

/-- A reply, unless it cannot be written. -/
def Reply.checked (reply : Reply) : Reply :=
  match reply.response?.bind Response.unencodable? with
  | some run => .breakOff (.unwritable run)
  | none => reply

inductive Task where
  | definition (document : Source.Document) (line character : Int)
  | hover (document : Source.Document) (line character : Int)
  | changed (path : Path)
  | clear

/-- The path of a request; an empty one counts as missing. -/
def Request.requirePath (request : Request) : Except Report Path :=
  match request.path?.filter (· ≠ "") with
  | some path => .ok (Path.ofString path)
  | none => .error (.malformedRequest "missing 'path'" [("method", .text request.method)])

def Request.requirePosition (request : Request) : Except Report (Int × Int) :=
  match request.line?, request.character? with
  | some line, some character => .ok (line, character)
  | _, _ =>
      .error
        (.malformedRequest "missing 'line' or 'character'" [("method", .text request.method)])

def Request.task (request : Request) : Except Report Task :=
  let positioned (make : Source.Document → Int → Int → Task) : Except Report Task := do
    let path ← request.requirePath
    let (line, character) ← request.requirePosition
    return make ⟨path, request.text?.map Text.characters⟩ line character
  match request.method with
  | "definition" => positioned .definition
  | "hover" => positioned .hover
  | "didChange" => request.requirePath.map .changed
  | "clear" => .ok .clear
  | method => .error (.unknownMethod method)

def Task.run : Task → Query Value
  | .definition document line character =>
      return .ofOption locationValue (← Query.definitionIn document line character)
  | .hover document line character =>
      return .ofOption hoverValue (← Query.hoverIn document line character)
  | .changed path => do
      Query.fileChanged path
      return .null
  | .clear => do
      Query.clear
      return .null

/-- Performs a task; a fault is noted and reported. -/
def perform (method : String) (task : Task) : Query (Except Report Value) := do
  try
    pure (.ok (← task.run))
  catch fault =>
    Query.note .error "serve_internal_error"
      [("method", .text method), ("error", .text fault.message),
        ("error_type", .text fault.kind)]
    pure
      (.error (.unexpected fault.message [("method", .text method), ("type", .text fault.kind)]))

def answer (request : Request) : Query Response := do
  let outcome ← match request.task with
    | .error report => pure (.error report)
    | .ok task => perform request.method task
  match outcome with
  | .ok result => return { id? := request.id?, result }
  | .error report => return { id? := request.id?, error? := some report }

/-- A response to a line that is no request. -/
def refuse (id? : Option RequestId) (reason : String) (details : List (String × Value)) : Reply :=
  .respond { id?, error? := some (.malformedRequest reason details) }

def stopMethod : String := "shutdown"

def handleRequest (entries : List (Scalar × Value)) : Query Reply :=
  match Request.ofEntries entries with
  | .valid request =>
      if request.method = stopMethod then return .stop request.id?
      else return .respond (← answer request)
  | .invalid (issue :: _) =>
      return refuse (refusedId? entries) (issue.field ++ ": " ++ issue.message)
        [("field", .text issue.field)]
  | .invalid [] => return refuse (refusedId? entries) "" []
  | .faulty fault => throw fault

/-- What a line says, in which collections may be nested `depth` times. -/
def readLine (depth : Nat) (line : String) : Except Json.Fault Value :=
  Json.read depth (Text.kept line)

def handleLine (depth : Nat) (line : String) : Query Reply :=
  match readLine depth line with
  | .error fault =>
      if fault.kind?.isSome then return .breakOff (.unreadable fault)
      else return refuse none ("invalid JSON: " ++ fault.message) []
  | .ok (.map entries) => handleRequest entries
  | .ok _ => return refuse none "request must be an object" []

/-- Runs a query while a request is current. -/
def asRequest (id : String) (query : Query α) : Query α := do
  modify fun state => { state with requestId? := some id }
  let result ← query
  modify fun state => { state with requestId? := none }
  return result

/-- Handles one line as a request of its own, after `handled` others. -/
def turn (depth : Nat) (newId : Nat → String) (handled : Nat) (line : String) : Query Reply :=
  asRequest (newId handled) do
    let reply := (← handleLine depth line).checked
    match reply with
    | .stop _ => Query.note .info "serve_shutdown" [("handled", .int (handled + 1))]
    | _ => pure ()
    return reply

/-- How a run of the loop ends: with its responses, the number of requests that were
handled, and perhaps with what broke it off. -/
structure Outcome where
  responses : List Response
  handled : Nat
  broken? : Option Interruption := none

def Outcome.cons (response : Response) (outcome : Outcome) : Outcome :=
  { outcome with responses := response :: outcome.responses }

def serveFrom (depth : Nat) (newId : Nat → String) : Nat → List String → Query Outcome
  | handled, [] => return { responses := [], handled }
  | handled, line :: rest => do
      let line := Text.trim line
      if line = "" then serveFrom depth newId handled rest
      else
        match ← turn depth newId handled line with
        | .respond response => return (← serveFrom depth newId (handled + 1) rest).cons response
        | .stop id? => return { responses := [{ id? }], handled := handled + 1 }
        | .breakOff cause => return { responses := [], handled, broken? := some cause }

/-- Answers all lines of a text. Requests are numbered for their names in the log. -/
def serve (depth : Nat) (newId : Nat → String) (lines : List String) : Query Outcome :=
  serveFrom depth newId 0 lines

end AsmNavigator.Serve
