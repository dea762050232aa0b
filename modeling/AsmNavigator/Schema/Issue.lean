import AsmNavigator.Data.Value

/-!
# What can be wrong with a value

An issue says where in the input it arises, what is wrong there and what stands there.
-/

namespace AsmNavigator.Schema

inductive IssueKind where
  /-- A field without a built-in value is absent. -/
  | required
  | textExpected
  /-- Bytes or surrogates that form no text. -/
  | brokenText
  | integerExpected
  /-- A text that is no integer. -/
  | integerText
  /-- An integer that is out of range. -/
  | integerSize
  | fraction
  | notFinite
  | oneOf (options : List String)
  | listExpected
  | mappingExpected
  | recordExpected (name : String)
  /-- A field that the record does not have. -/
  | unknownField
  | below (least : Int)
  /-- A value of the right type that a rule refuses. -/
  | refused (reason : String)
  deriving DecidableEq, Repr

namespace IssueKind

def label : IssueKind → String
  | .required => "missing"
  | .textExpected => "string_type"
  | .brokenText => "string_unicode"
  | .integerExpected => "int_type"
  | .integerText => "int_parsing"
  | .integerSize => "int_parsing_size"
  | .fraction => "int_from_float"
  | .notFinite => "finite_number"
  | .oneOf _ => "literal_error"
  | .listExpected => "list_type"
  | .mappingExpected => "dict_type"
  | .recordExpected _ => "model_type"
  | .unknownField => "extra_forbidden"
  | .below _ => "greater_than_equal"
  | .refused _ => "value_error"

/-- Options in single quotes, the last one after an "or". -/
def enumerated : List String → String
  | [] => ""
  | [option] => "'" ++ option ++ "'"
  | [first, second] => "'" ++ first ++ "' or '" ++ second ++ "'"
  | first :: rest => "'" ++ first ++ "', " ++ enumerated rest

def message : IssueKind → String
  | .required => "Field required"
  | .textExpected => "Input should be a valid string"
  | .brokenText =>
      "Input should be a valid string, unable to parse raw data as a unicode string"
  | .integerExpected => "Input should be a valid integer"
  | .integerText => "Input should be a valid integer, unable to parse string as an integer"
  | .integerSize => "Unable to parse input string as an integer, exceeded maximum size"
  | .fraction => "Input should be a valid integer, got a number with a fractional part"
  | .notFinite => "Input should be a finite number"
  | .oneOf options => "Input should be " ++ enumerated options
  | .listExpected => "Input should be a valid list"
  | .mappingExpected => "Input should be a valid dictionary"
  | .recordExpected name => "Input should be a valid dictionary or instance of " ++ name
  | .unknownField => "Extra inputs are not permitted"
  | .below least => s!"Input should be greater than or equal to {least}"
  | .refused reason => "Value error, " ++ reason

end IssueKind

structure Issue where
  /-- Field names and list positions, from the outside to the inside. -/
  location : List String
  kind : IssueKind
  input : Value
  deriving Repr

namespace Issue

def message (issue : Issue) : String := issue.kind.message

def field (issue : Issue) : String := String.intercalate "." issue.location

def under (name : String) (issue : Issue) : Issue :=
  { issue with location := name :: issue.location }

end Issue

end AsmNavigator.Schema
