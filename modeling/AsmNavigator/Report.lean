import AsmNavigator.Data.Display

/-!
# Reports

What goes wrong around navigation, in the form in which users and clients see it. Every
kind of report has a number and a name. The facts of a report are values; its message
shows them.
-/

namespace AsmNavigator

inductive Report where
  /-- A configuration file that cannot be read. -/
  | unreadableConfig (path reason : Value)
  /-- A setting that is refused. -/
  | invalidSetting (field value reason : Value)
  /-- A configuration directory that is not there. -/
  | missingConfig (path : Value)
  | malformedRequest (reason : Value) (details : List (String × Value))
  | unknownMethod (method : Value)
  /-- A fault while a request was served. -/
  | unexpected (reason : Value) (details : List (String × Value))

namespace Report

def code : Report → Nat
  | .unreadableConfig .. => 2001
  | .invalidSetting .. => 2002
  | .missingConfig _ => 2004
  | .malformedRequest .. => 3001
  | .unknownMethod _ => 3002
  | .unexpected .. => 9001

def name : Report → String
  | .unreadableConfig .. => "CONFIG_PARSE_ERROR"
  | .invalidSetting .. => "CONFIG_INVALID_VALUE"
  | .missingConfig _ => "CONFIG_FILE_NOT_FOUND"
  | .malformedRequest .. => "REQUEST_MALFORMED"
  | .unknownMethod _ => "REQUEST_UNKNOWN_METHOD"
  | .unexpected .. => "INTERNAL_ERROR"

def message : Report → String
  | .unreadableConfig path reason =>
      s!"Failed to parse config at {path.shown}: {reason.shown}"
  | .invalidSetting field _ reason => s!"Invalid value for '{field.shown}': {reason.shown}"
  | .missingConfig path => s!"Config path not found: {path.shown}"
  | .malformedRequest reason _ => s!"Malformed request: {reason.shown}"
  | .unknownMethod method => s!"Unknown method: {method.shown}"
  | .unexpected reason _ => s!"Internal error: {reason.shown}"

/-- The facts behind a report; a refused value stands as messages show it. -/
def details : Report → List (String × Value)
  | .unreadableConfig path reason => [("path", path), ("reason", reason)]
  | .invalidSetting field value reason =>
      [("field", field), ("value", .text value.shown), ("reason", reason)]
  | .missingConfig path => [("path", path)]
  | .malformedRequest _ details => details
  | .unknownMethod method => [("method", method)]
  | .unexpected _ details => details

/-- No report is worth a second try. -/
def retryable (_ : Report) : Bool := false

def toValue (report : Report) : Value :=
  .object
    [("code", .int report.code), ("error", .text report.name), ("message", .text report.message),
      ("retryable", .bool report.retryable), ("details", .object report.details)]

def text (report : Report) : String := s!"[{report.code}] {report.name}: {report.message}"

end Report

end AsmNavigator
