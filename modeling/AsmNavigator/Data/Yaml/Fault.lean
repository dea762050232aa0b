import AsmNavigator.Text.Quoted
import AsmNavigator.Text.Utf8

/-!
# What can be wrong with a document

Most faults of a document count as one: it is malformed. The others say which value
cannot be, or that the file is no text.
-/

namespace AsmNavigator.Yaml

inductive Fault where
  /-- The text is no document. -/
  | malformed
  /-- The text ends inside a token. -/
  | unfinished
  /-- A number or a date that cannot be. -/
  | value (message : String)
  /-- A number that is out of range. -/
  | overflow (message : String)
  /-- A word that is no truth value. -/
  | unknownWord (word : String)
  /-- A number without digits. -/
  | noDigits
  /-- A text that is no date. -/
  | notAStamp
  /-- A mapping in the place of a date. -/
  | stampOfMapping
  /-- A value that contains itself as its own text. -/
  | endless
  /-- Bytes that are no text. -/
  | notText (run : Text.Utf8.BrokenRun)
  deriving DecidableEq

namespace Fault

def shownByte (b : UInt8) : String := "0x" ++ String.ofList (Text.hexDigits 2 b.toNat)

def shownRun (run : Text.Utf8.BrokenRun) : String :=
  match run.bytes with
  | [b] =>
      s!"'utf-8' codec can't decode byte {shownByte b} in position {run.position}: {run.reason}"
  | bytes =>
      let last := run.position + bytes.length - 1
      s!"'utf-8' codec can't decode bytes in position {run.position}-{last}: {run.reason}"

def message : Fault → String
  | .malformed | .unfinished => "yaml syntax"
  | .value message | .overflow message => message
  | .unknownWord word => Text.quoted word
  | .noDigits => "string index out of range"
  | .notAStamp => "'NoneType' object has no attribute 'groupdict'"
  | .stampOfMapping => "expected string or bytes-like object, got 'list'"
  | .endless => "maximum recursion depth exceeded"
  | .notText run => shownRun run

/-- The kind of a fault, as clients see it; malformed documents are reported in their own way. -/
def kind? : Fault → Option String
  | .malformed | .unfinished => none
  | .value _ => some "ValueError"
  | .overflow _ => some "OverflowError"
  | .unknownWord _ => some "KeyError"
  | .noDigits => some "IndexError"
  | .notAStamp => some "AttributeError"
  | .stampOfMapping => some "TypeError"
  | .endless => some "RecursionError"
  | .notText _ => some "UnicodeDecodeError"

end Fault

end AsmNavigator.Yaml
