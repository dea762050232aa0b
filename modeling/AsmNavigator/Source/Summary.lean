import AsmNavigator.OrderedMap
import AsmNavigator.Source.Declaration

/-!
# Summary of a source file

The names that a file imports, re-exports and defines. A later line overrides an earlier
one for the same name. One line can contribute to several parts.
-/

namespace AsmNavigator.Source

/-- Where an exported name comes from, and the line that says so. -/
structure Reexport where
  moduleName : String
  declared : String
  line : Nat
  deriving DecidableEq, Repr

structure Summary where
  /-- Names used at call sites, with the import expressions they stand for. -/
  imports : OrderedMap String String
  procedures : OrderedMap String Nat
  reexports : OrderedMap String Reexport
  constants : OrderedMap String Nat
  deriving DecidableEq

namespace Summary

def empty : Summary := ⟨.empty, .empty, .empty, .empty⟩

instance : Inhabited Summary := ⟨empty⟩

def addImport (s : Summary) (i : Import) : Summary :=
  let imports := s.imports.insert i.lastSegment i.path
  { s with imports := match i.alias? with
      | some name => imports.insert name i.path
      | none => imports }

/-- A re-exported module counts as imported under its own name, unless that name is taken. -/
def addReexport (s : Summary) (line : Nat) (r : Renaming) : Summary :=
  { s with
    reexports := s.reexports.insert r.exported ⟨r.moduleName, r.declared, line⟩
    imports := s.imports.insertIfNew r.moduleName r.moduleName }

def addProcedure (s : Summary) (line : Nat) (name : List Char) : Summary :=
  { s with procedures := s.procedures.insert (String.ofList name) line }

def addConstant (s : Summary) (line : Nat) (name : List Char) : Summary :=
  { s with constants := s.constants.insert (String.ofList name) line }

def addIf (change : Summary → α → Summary) (s : Summary) : Option α → Summary
  | none => s
  | some a => change s a

def addLine (s : Summary) (number : Nat) (line : String) : Summary :=
  let cs := line.toList
  let s := addIf addImport s (import? cs)
  let s := addIf (addReexport · number) s (renaming? cs)
  let s := addIf (addProcedure · number) s ((procedureName? cs).map (·.1))
  addIf (addConstant · number) s ((constantName? cs).map (·.1))

def addLines (s : Summary) (number : Nat) : List String → Summary
  | [] => s
  | line :: rest => (s.addLine number line).addLines (number + 1) rest

def ofLines (lines : List String) : Summary := empty.addLines 0 lines

end Summary

end AsmNavigator.Source
