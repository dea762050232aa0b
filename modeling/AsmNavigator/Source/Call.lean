import AsmNavigator.Source.Cursor
import AsmNavigator.Text.Scan

/-!
# Calls in a line
-/

namespace AsmNavigator.Source

open Text

/-- A call `exec.module::procedure` or `call.module::procedure`. -/
structure QualifiedCall where
  moduleName : String
  moduleStart : Nat
  procedure : String
  procedureStart : Nat
  deriving DecidableEq, Repr

def qualifiedCallAt? (position : Nat) (cs : List Char) : Option (QualifiedCall × Nat) := do
  let rest ← (dropPrefix? "exec.".toList cs).or (dropPrefix? "call.".toList cs)
  let (moduleName, rest) ← takeIdent? rest
  let rest ← dropPrefix? [':', ':'] rest
  let (procedure, rest) ← takeIdent? rest
  let moduleStart := position + 5
  some
    ({ moduleName := String.ofList moduleName
       moduleStart := moduleStart
       procedure := String.ofList procedure
       procedureStart := moduleStart + moduleName.length + 2 },
      cs.length - rest.length)

def qualifiedCalls (line : String) : List QualifiedCall :=
  findAll qualifiedCallAt? line.toList

/-- The first qualified call one of whose parts begins where the word does. -/
def callOfWord? (line : String) (w : Word) : Option QualifiedCall :=
  (qualifiedCalls line).find? fun call =>
    w.start = call.moduleStart || w.start = call.procedureStart

/-- The name after the first `call.` that is followed by an identifier up to the end. -/
def localCallIn? : List Char → Option (List Char)
  | [] => none
  | c :: rest =>
      match (dropPrefix? "call.".toList (c :: rest)).bind takeIdent? with
      | some (name, []) => some name
      | _ => localCallIn? rest

/-- The procedure of an unqualified call that ends where the word does. -/
def localCall? (line : String) (w : Word) : Option String :=
  let upTo := (w.upTo line).toList
  if containsText [':', ':'] upTo then none else (localCallIn? upTo).map String.ofList

end AsmNavigator.Source
