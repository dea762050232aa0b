import AsmNavigator.Data.Json.Writer
import AsmNavigator.Report
import AsmNavigator.Serve.Request
import AsmNavigator.Session.Symbols

/-!
# Responses

One line for every request, with its identification and either a result or a report.
-/

namespace AsmNavigator.Serve

structure Response where
  id? : Option RequestId
  result : Value := .null
  error? : Option Report := none

namespace Response

def toValue (response : Response) : Value :=
  .object
    [("id", .ofOption RequestId.toValue response.id?), ("result", response.result),
      ("error", .ofOption Report.toValue response.error?)]

def line (response : Response) : String := Json.write Json.compact response.toValue

def unencodable? (response : Response) : Option Text.SurrogateRun :=
  Json.unencodable? response.toValue

end Response

def locationValue (location : Session.Location) : Value :=
  .object
    [("file", .text location.file.toString), ("line", .int location.line),
      ("column", .int location.column)]

def hoverValue (contents : String) : Value := .object [("contents", .text contents)]

end AsmNavigator.Serve
