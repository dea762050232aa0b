import AsmNavigator.CommandLine.Page
import AsmNavigator.Files.Tree
import AsmNavigator.Number.Numeral
import AsmNavigator.Text.Similarity

/-!
# Arguments of a call

Switches may stand among the arguments of a command, but only in front of the command's
name for the program itself. Two dashes end them.
-/

namespace AsmNavigator.CommandLine

inductive Misuse where
  /-- A switch that does not exist, with those that may have been meant. -/
  | noSuchSwitch (name : String) (similar : List String)
  /-- A value for a switch that takes none. -/
  | superfluousValue (name : String)
  | missingValue (name : String)
  | missingCommand
  | noSuchCommand (name : String) (similar : List String)
  | missingArgument (name : String)
  | invalidArgument (name reason : String)
  | extraArguments (arguments : List String)
  deriving DecidableEq, Repr

def suggestion : List String → String
  | [] => ""
  | [name] => " Did you mean " ++ Text.quoted name ++ "?"
  | names =>
      " (Did you mean one of: " ++ String.intercalate ", " (names.map Text.quoted) ++ "?)"

def Misuse.message : Misuse → String
  | .noSuchSwitch name similar =>
      "No such option " ++ Text.quoted name ++ "." ++ suggestion similar
  | .superfluousValue name => "Option " ++ Text.quoted name ++ " does not take a value."
  | .missingValue name => "Option " ++ Text.quoted name ++ " requires an argument."
  | .missingCommand => "Missing command."
  | .noSuchCommand name similar =>
      "No such command " ++ Text.quoted name ++ "." ++ suggestion similar
  | .missingArgument name => "Missing argument '" ++ name ++ "'."
  | .invalidArgument name reason => "Invalid value for '" ++ name ++ "': " ++ reason
  | .extraArguments [argument] => "Got unexpected extra argument (" ++ argument ++ ")"
  | .extraArguments arguments =>
      "Got unexpected extra arguments (" ++ String.intercalate " " arguments ++ ")"

structure Given where
  /-- Switches by their long names, in order, with their values. -/
  switches : List (String × Option String)
  arguments : List String

namespace Given

def has (given : Given) (switch : Switch) : Bool :=
  given.switches.any fun entry => entry.1 = switch.long

/-- The last value of a switch. -/
def value? (given : Given) (switch : Switch) : Option String :=
  ((given.switches.filter fun entry => entry.1 = switch.long).getLast?).bind (·.2)

def addSwitch (name : String) (value? : Option String) (given : Given) : Given :=
  { given with switches := (name, value?) :: given.switches }

def addArgument (argument : String) (given : Given) : Given :=
  { given with arguments := argument :: given.arguments }

end Given

def looksLikeSwitch (arg : String) : Bool :=
  arg.toList.head? = some '-' && arg.length > 1

def splitValue (arg : String) : String × Option String :=
  let cs := arg.toList
  let name := cs.takeWhile (· != '=')
  (String.ofList name,
    if name.length < cs.length then some (String.ofList (cs.drop (name.length + 1))) else none)

/-- Several short switches behind one dash; none of them takes a value. -/
def shortSwitches (switches : List Switch) : List Char → Except Misuse (List String)
  | [] => .ok []
  | c :: rest =>
      match switches.find? fun switch => switch.short? = some c with
      | some switch => do return switch.long :: (← shortSwitches switches rest)
      | none => .error (.noSuchSwitch (String.ofList ['-', c]) [])

/-- Takes a call apart from a place on. A switch may be waiting for its value there. -/
def takeApartFrom (switches : List Switch) (interspersed : Bool) :
    Option String → List String → Except Misuse Given
  | none, [] => .ok ⟨[], []⟩
  | some waiting, [] => .error (.missingValue waiting)
  | some waiting, value :: rest => do
      return (← takeApartFrom switches interspersed none rest).addSwitch waiting (some value)
  | none, arg :: rest =>
      if arg = "--" then .ok ⟨[], rest⟩
      else if looksLikeSwitch arg then
        let (name, attached?) := splitValue arg
        match switches.find? (fun switch => switch.long = name), attached? with
        | some switch, some value =>
            if switch.value?.isNone then .error (.superfluousValue name)
            else do
              return (← takeApartFrom switches interspersed none rest).addSwitch name (some value)
        | some switch, none =>
            if switch.value?.isSome then takeApartFrom switches interspersed (some name) rest
            else do return (← takeApartFrom switches interspersed none rest).addSwitch name none
        | none, _ =>
            if "--".toList.isPrefixOf arg.toList then
              .error (.noSuchSwitch name (Text.closeMatches name (switches.map (·.long))))
            else do
              let names ← shortSwitches switches (arg.toList.drop 1)
              let given ← takeApartFrom switches interspersed none rest
              return names.foldr (fun name given => given.addSwitch name none) given
      else if interspersed then
        do return (← takeApartFrom switches interspersed none rest).addArgument arg
      else .ok ⟨[], arg :: rest⟩

def takeApart (switches : List Switch) (interspersed : Bool) (args : List String) :
    Except Misuse Given :=
  takeApartFrom switches interspersed none args

/-! ## Values of arguments -/

def integerArgument? (s : String) : Option Int := (Numeral.integer 10 s.toList).toOption

/-- A line or a column, counted from one. -/
def countArgument (name s : String) : Except Misuse Int :=
  match integerArgument? s with
  | none => .error (.invalidArgument name (Text.quoted s ++ " is not a valid integer range."))
  | some n =>
      if 1 ≤ n then .ok n
      else .error (.invalidArgument name s!"{n} is not in the range x>=1.")

inductive PathKind where
  /-- A file that exists. -/
  | existingFile
  /-- Anything but a directory. -/
  | file
  /-- A directory that exists. -/
  | existingDirectory
  deriving DecidableEq

def PathKind.label : PathKind → String
  | .existingDirectory => "Directory"
  | _ => "File"

/-- Whether a path argument demands a directory by its form. -/
def demandsDirectory (s : String) : Bool :=
  match (Text.splitOn '/' s.toList).getLast? with
  | some last => last.isEmpty || last == ['.']
  | none => false

/-- What a path argument names, if anything. What can be no path at all is a fault. -/
def namedNode? (tree : FileTree) (cwd : Path) (s : String) : Except Fault (Option Entry) :=
  if s = "" then .ok none
  else
    match tree.stat cwd (Path.ofString s) with
    | .ok (.file bytes) => .ok (if demandsDirectory s then none else some (.file bytes))
    | .ok .directory => .ok (some .directory)
    | .error (.os _ _) => .ok none
    | .error fault => .error fault

def pathFlaw? (kind : PathKind) (node? : Option Entry) (s : String) : Option String :=
  let shown := kind.label ++ " " ++ Text.quoted s
  match kind, node? with
  | .existingFile, none | .existingDirectory, none => some (shown ++ " does not exist.")
  | .existingFile, some .directory | .file, some .directory => some (shown ++ " is a directory.")
  | .existingDirectory, some (.file _) => some (shown ++ " is a file.")
  | _, _ => none

end AsmNavigator.CommandLine
