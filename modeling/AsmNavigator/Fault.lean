import AsmNavigator.Number.Numeral

/-!
# What can go wrong while the disk is searched
-/

namespace AsmNavigator

inductive OsCause where
  | notFound
  | exists
  | notADirectory
  | isADirectory
  | nameTooLong
  deriving DecidableEq, Repr

def OsCause.number : OsCause → Nat
  | .notFound => 2
  | .exists => 17
  | .notADirectory => 20
  | .isADirectory => 21
  | .nameTooLong => 36

def OsCause.text : OsCause → String
  | .notFound => "No such file or directory"
  | .exists => "File exists"
  | .notADirectory => "Not a directory"
  | .isADirectory => "Is a directory"
  | .nameTooLong => "File name too long"

inductive Fault where
  /-- The operating system refused a path. -/
  | os (cause : OsCause) (path : String)
  /-- A path with a null character. -/
  | nullCharacter
  /-- A path with surrogates. -/
  | unencodable (run : Text.SurrogateRun)
  /-- A version piece that looks like a number and is none. -/
  | notANumber (text : String)
  /-- A version number that is too long to convert. -/
  | tooManyDigits (count : Nat)
  /-- A line number beyond the end of a file. -/
  | noSuchLine
  /-- A home directory that is not known. -/
  | noHome
  deriving DecidableEq, Repr

def Fault.message : Fault → String
  | .os cause path => s!"[Errno {cause.number}] {cause.text}: {Text.quoted path}"
  | .nullCharacter => "embedded null byte"
  | .unencodable run => run.message
  | .notANumber text => Numeral.malformedMessage 10 text
  | .tooManyDigits count => Numeral.tooLongMessage count
  | .noSuchLine => "list index out of range"
  | .noHome => "Could not determine home directory."

def Fault.kind : Fault → String
  | .os .notFound _ => "FileNotFoundError"
  | .os .exists _ => "FileExistsError"
  | .os .notADirectory _ => "NotADirectoryError"
  | .os .isADirectory _ => "IsADirectoryError"
  | .os .nameTooLong _ => "OSError"
  | .unencodable _ => "UnicodeEncodeError"
  | .nullCharacter | .notANumber _ | .tooManyDigits _ => "ValueError"
  | .noSuchLine => "IndexError"
  | .noHome => "RuntimeError"

end AsmNavigator
