import AsmNavigator.OrderedMap
import AsmNavigator.Source.Identifier
import AsmNavigator.Text.Scan
import AsmNavigator.Text.WordChar

/-!
# Namespaces in build scripts

A build script binds a namespace to a directory by two constants with a common key, or
mentions the namespace in a call that assembles a library. In the second case the
directory is guessed: the first directory constant that can name a library, or else the
last segment of the namespace. Nothing is evaluated.
-/

namespace AsmNavigator.BuildScript

open Text Source

structure Binding where
  namespaceName : String
  subdir : String
  /-- Whether the binding comes from a pair of constants. -/
  declared : Bool
  deriving DecidableEq, Repr

def takeLiteral? : List Char → Option (List Char × List Char)
  | '"' :: rest =>
      let body := rest.takeWhile (· != '"')
      match body.isEmpty, rest.dropWhile (· != '"') with
      | false, '"' :: rest => some (body, rest)
      | _, _ => none
  | _ => none

/-- A text constant at the beginning: its name, its value and its length. -/
def constantAt? (cs : List Char) : Option (List Char × List Char × Nat) := do
  let rest ← afterKeyword? "const" cs
  let name := rest.takeWhile isWordChar
  let rest ← dropPrefix? [':'] (rest.dropWhile isWordChar)
  let rest ← dropPrefix? "&str".toList (skipOptionalBlanks rest)
  let rest ← dropPrefix? ['='] (skipOptionalBlanks rest)
  let (value, rest) ← takeLiteral? (skipOptionalBlanks rest)
  some (name, value, cs.length - rest.length)

/-- The key inside a constant's name, which must not be empty. -/
def keyBetween? (before after name : List Char) : Option (List Char) :=
  ((dropPrefix? before name).bind (dropSuffix? after)).filter (!·.isEmpty)

/-- The constants whose names have the given beginning and end: keys and values. -/
def constants (before after : String) (cs : List Char) : List (String × String) :=
  findAll (fun _ cs => do
    let (name, value, length) ← constantAt? cs
    let key ← keyBetween? before.toList after.toList name
    some ((String.ofList key, String.ofList value), length)) cs

/-- The namespace of a call that assembles a library, and the length of the call. -/
def assembleCallAt? (cs : List Char) : Option (List Char × Nat) := do
  let rest ← dropPrefix? "assemble_library_from_dir".toList cs
  let rest ← dropPrefix? ['('] (skipOptionalBlanks rest)
  if rest.head? = some ',' then none
  let rest ← dropPrefix? [','] (rest.dropWhile (· != ','))
  let (name, rest) ← takeLiteral? (skipOptionalBlanks rest)
  let rest ← dropPrefix? [')'] rest
  some (name, cs.length - rest.length)

def assembleCalls (cs : List Char) : List String :=
  findAll (fun _ cs => (assembleCallAt? cs).map fun (name, length) =>
    (String.ofList name, length)) cs

def isExcludedKey (excluded : List String) (key : String) : Bool :=
  excluded.any fun keyword => containsText keyword.toList key.toList

def guessedSubdir (excluded : List String) (dirs : OrderedMap String String)
    (namespaceName : String) : String :=
  match dirs.entries.find? fun entry => !isExcludedKey excluded entry.1 with
  | some entry => entry.2
  | none => (split "::" namespaceName).getLast?.getD ""

def addDeclared (dirs : OrderedMap String String) (bindings : OrderedMap String Binding)
    (constant : String × String) : OrderedMap String Binding :=
  match dirs.get? constant.1 with
  | some subdir => bindings.insert constant.2 ⟨constant.2, subdir, true⟩
  | none => bindings

/-- Adds the binding of one call, unless the namespace is bound already. -/
def addGuessed (excluded : List String) (dirs : OrderedMap String String)
    (bindings : OrderedMap String Binding) (namespaceName : String) :
    OrderedMap String Binding :=
  bindings.insertIfNew namespaceName
    ⟨namespaceName, guessedSubdir excluded dirs namespaceName, false⟩

/-- The bindings of a build script, one for each namespace. -/
def bindings (excluded : List String) (text : String) : List Binding :=
  let cs := text.toList
  let namespaces := OrderedMap.ofList (constants "" "_LIB_NAMESPACE" cs)
  let dirs := OrderedMap.ofList (constants "ASM_" "_DIR" cs)
  let declared := namespaces.entries.foldl (addDeclared dirs) .empty
  ((assembleCalls cs).foldl (addGuessed excluded dirs) declared).values

end AsmNavigator.BuildScript
