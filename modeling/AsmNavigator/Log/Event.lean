import AsmNavigator.Config.Types
import AsmNavigator.Data.Value

/-!
# Log events

What happened, with the facts that belong to it and the request in which it happened.
-/

namespace AsmNavigator.Log

structure Event where
  level : Config.LogLevel
  name : Value
  fields : List (String × Value)
  requestId? : Option String := none

end AsmNavigator.Log
