import AsmNavigator.Proofs.Session.AnyState
import AsmNavigator.Proofs.Source.DefinitionLine
import AsmNavigator.Proofs.Source.LastDeclaration

/-! # A search for a name and a summary of names agree

A file is searched for the line that defines a given name, and its summary holds the
names that its lines define. Both go by the same lines, apart from procedures whose name
is followed by a letter or digit beyond ASCII: their name can be read, but is no word of
its own. The search gives the first line and the summary the last.
-/

namespace AsmNavigator.Source

open Text

/-- What follows the name of a procedure does not go on with it. -/
theorem isIdentChar_of_procedureName? {line name rest : List Char}
    (h : procedureName? line = some (name, rest)) : ∀ c ∈ rest.head?, isIdentChar c = false := by
  rw [procedureName?_eq] at h
  obtain ⟨cs, -, htake⟩ := Option.bind_eq_some_iff.mp h
  exact stops_of_takeRun? htake

/-- No procedure's name is followed by a letter or digit beyond ASCII. -/
def NamesEndPlainly (lines : List String) : Prop :=
  ∀ line ∈ lines, ∀ found ∈ procedureName? line.toList,
    ∀ c ∈ found.2.head?, isWordChar c = true → c.toNat < 128

instance (lines : List String) : Decidable (NamesEndPlainly lines) :=
  decidable_of_iff
    (lines.all (fun line => (procedureName? line.toList).all fun found =>
      found.2.head?.all fun c => isWordChar c = true → c.toNat < 128) = true)
    (by simp only [List.all_eq_true, Option.all_eq_true, decide_eq_true_eq, NamesEndPlainly,
      Option.mem_def])

theorem map_fst_eq_some_iff {found? : Option (List Char × List Char)} {name : String} :
    found?.map (String.ofList ·.1) = some name ↔ ∃ rest, found? = some (name.toList, rest) := by
  rw [Option.map_eq_some_iff]
  constructor
  · rintro ⟨⟨text, rest⟩, hfound, rfl⟩
    exact ⟨rest, by rw [hfound, String.toList_ofList]⟩
  · rintro ⟨rest, hfound⟩
    exact ⟨_, hfound, String.ofList_toList⟩

variable {name line : String}

theorem isDefinition_procedure_iff (hname : IsIdent name.toList) :
    isDefinition .procedure name line = true ↔
      ∃ rest, procedureName? line.toList = some (name.toList, rest) ∧
        ∀ c ∈ rest.head?, isWordChar c = false := by
  unfold isDefinition
  rw [Option.isSome_iff_exists]
  exact exists_congr fun rest => definesProcedure?_eq_some_iff hname

theorem isDefinition_constant_iff (hname : isConstantName name = true) :
    isDefinition .constant name line = true ↔
      ∃ rest, constantName? line.toList = some (name.toList, rest) := by
  have hconstant : isConstantName (String.ofList name.toList) = true := by
    rwa [String.ofList_toList]
  unfold isDefinition
  rw [Option.isSome_iff_exists]
  exact exists_congr fun rest =>
    definesConstant?_eq_some_iff (isIdent_of_isConstantName hname) hconstant

/-- Where names end plainly, the search goes by the name that can be read. -/
theorem isDefinition_iff_of_namesEndPlainly (hname : IsIdent name.toList) {lines : List String}
    (hplain : NamesEndPlainly lines) (hline : line ∈ lines) :
    isDefinition .procedure name line = true ↔
      ∃ rest, procedureName? line.toList = some (name.toList, rest) := by
  rw [isDefinition_procedure_iff hname]
  refine exists_congr fun rest => ⟨fun h => h.1, fun h => ⟨h, ?_⟩⟩
  intro c hc
  rw [Bool.eq_false_iff]
  intro hword
  have hascii : c.toNat < 128 := hplain line hline _ h c hc hword
  rw [isWordChar_of_lt hascii, isIdentChar_of_procedureName? h c hc] at hword
  cases hword

end AsmNavigator.Source

namespace AsmNavigator.Session

open Source Text

def DefinesAt (kind : SymbolKind) (name : String) (lines : List String) (number : Nat) : Prop :=
  ∃ line, lines[number]? = some line ∧ isDefinition kind name line = true

/-- What a search for a name in the lines of a file and the numbers of the lines that a
summary holds have to do with each other. -/
structure Concur (kind : SymbolKind) (file : Path) (name : String) (lines : List String)
    (lookup : Lookup) (numbers : OrderedMap String Nat) : Prop where
  found : (∃ place, lookup = .found place) ↔ numbers.contains name = true
  missed : lookup = .notFound ↔ numbers.contains name = false
  first : ∀ place, lookup = .found place → place.file = file ∧
    DefinesAt kind name lines place.line ∧
      ∀ earlier < place.line, ¬ DefinesAt kind name lines earlier
  last : ∀ number, numbers.get? name = some number →
    DefinesAt kind name lines number ∧ ∀ later > number, ¬ DefinesAt kind name lines later
  once : ∀ place number, lookup = .found place → numbers.get? name = some number →
    (place.line = number ↔ ∃! only, DefinesAt kind name lines only)

variable {kind : SymbolKind} {file : Path} {name : String} {lines : List String}

/-! ## The first line -/

/-- What the search of lines that were read gives is the first line that defines the name. -/
theorem exists_line_of_found {place : Location}
    (h : definitionIn kind file name (.found lines) = .found place) :
    ∃ line, lines[place.line]? = some line ∧ isDefinition kind name line = true ∧
      (∀ earlier < place.line, ¬ DefinesAt kind name lines earlier) ∧
      place = ⟨file, place.line, columnOf name line⟩ := by
  simp only [definitionIn, firstDefinition?] at h
  cases hindex : lines.findIdx? (isDefinition kind name) with
  | none =>
      rw [hindex] at h
      cases h
  | some number =>
      rw [hindex] at h
      cases h
      obtain ⟨hlength, hdefines, hearlier⟩ := List.findIdx?_eq_some_iff_getElem.mp hindex
      have hline : lines[number]? = some lines[number] := List.getElem?_eq_getElem hlength
      refine ⟨lines[number], hline, hdefines, ?_, by rw [hline]; rfl⟩
      rintro earlier hlt ⟨line, hline, hdefines⟩
      obtain ⟨hbound, rfl⟩ := List.getElem?_eq_some_iff.mp hline
      exact hearlier earlier hlt hdefines

theorem first_of_found {place : Location}
    (h : definitionIn kind file name (.found lines) = .found place) :
    place.file = file ∧ DefinesAt kind name lines place.line ∧
      ∀ earlier < place.line, ¬ DefinesAt kind name lines earlier := by
  obtain ⟨line, hline, hdefines, hearlier, heq⟩ := exists_line_of_found h
  exact ⟨congrArg Location.file heq, ⟨line, hline, hdefines⟩, hearlier⟩

/-- The search of lines that were read misses a name only if no line defines it. -/
theorem definitionIn_cases (kind : SymbolKind) (file : Path) (name : String)
    (lines : List String) :
    (∃ place, definitionIn kind file name (.found lines) = .found place) ∨
      (definitionIn kind file name (.found lines) = .notFound ∧
        ∀ number, ¬ DefinesAt kind name lines number) := by
  simp only [definitionIn, firstDefinition?]
  cases hindex : lines.findIdx? (isDefinition kind name) with
  | some number => exact .inl ⟨_, rfl⟩
  | none =>
      refine .inr ⟨rfl, ?_⟩
      rintro number ⟨line, hline, hdefines⟩
      have hnone := List.findIdx?_eq_none_iff.mp hindex line (List.mem_of_getElem? hline)
      rw [hdefines] at hnone
      cases hnone

theorem found_iff_exists_definesAt :
    (∃ place, definitionIn kind file name (.found lines) = .found place) ↔
      ∃ number, DefinesAt kind name lines number := by
  constructor
  · rintro ⟨place, hplace⟩
    exact ⟨place.line, (first_of_found hplace).2.1⟩
  · rintro ⟨number, hdefines⟩
    rcases definitionIn_cases kind file name lines with hfound | ⟨-, hnone⟩
    · exact hfound
    · exact absurd hdefines (hnone number)

theorem notFound_iff_not_found :
    definitionIn kind file name (.found lines) = .notFound ↔
      ¬ ∃ place, definitionIn kind file name (.found lines) = .found place := by
  rcases definitionIn_cases kind file name lines with ⟨place, hplace⟩ | ⟨hmissed, -⟩
  · simp [hplace]
  · simp [hmissed]

/-! ## The last line -/

/-- The first line and the last are the same if and only if there is no other. -/
theorem first_eq_last_iff {P : Nat → Prop} {first last : Nat} (hfirst : P first)
    (hearlier : ∀ earlier < first, ¬ P earlier) (hlast : P last)
    (hlater : ∀ later > last, ¬ P later) : first = last ↔ ∃! only, P only := by
  constructor
  · rintro rfl
    refine ⟨first, hfirst, fun other hother => ?_⟩
    rcases Nat.lt_trichotomy other first with hlt | heq | hgt
    · exact absurd hother (hearlier other hlt)
    · exact heq
    · exact absurd hother (hlater other hgt)
  · rintro ⟨only, -, hunique⟩
    rw [hunique first hfirst, hunique last hlast]

section Recorded

variable {declared? : List Char → Option (List Char × List Char)}
  {numbers : OrderedMap String Nat}
  (hnumbers : numbers.get? name = lastOf (fun line => numberIf declared? name line.toList) lines)
  (hlines : ∀ line ∈ lines, isDefinition kind name line = true ↔
    ∃ rest, declared? line.toList = some (name.toList, rest))

include hlines in
theorem numberIf_eq_some_iff {number : Nat} {line : String} (hline : lines[number]? = some line)
    (n : Nat) : numberIf declared? name line.toList number = some n ↔
      n = number ∧ isDefinition kind name line = true := by
  rw [hlines line (List.mem_of_getElem? hline), ← map_fst_eq_some_iff]
  unfold numberIf
  split
  · next hname => simp [hname, eq_comm]
  · next hname => simp [hname]

include hnumbers hlines

theorem last_of_recorded {number : Nat} (h : numbers.get? name = some number) :
    DefinesAt kind name lines number ∧ ∀ later > number, ¬ DefinesAt kind name lines later := by
  rw [hnumbers] at h
  obtain ⟨n, line, hline, hn, hlater⟩ := lastOf_eq_some_iff.mp h
  obtain ⟨rfl, hdefines⟩ := (numberIf_eq_some_iff hlines hline number).mp hn
  refine ⟨⟨line, hline, hdefines⟩, ?_⟩
  rintro later hgt ⟨line', hline', hdefines'⟩
  have hnone := hlater later line' hgt hline'
  rw [(numberIf_eq_some_iff hlines hline' later).mpr ⟨rfl, hdefines'⟩] at hnone
  cases hnone

theorem contains_iff_exists_definesAt :
    numbers.contains name = true ↔ ∃ number, DefinesAt kind name lines number := by
  unfold OrderedMap.contains
  constructor
  · intro h
    obtain ⟨number, hnumber⟩ := Option.isSome_iff_exists.mp h
    exact ⟨number, (last_of_recorded hnumbers hlines hnumber).1⟩
  · rintro ⟨number, line, hline, hdefines⟩
    rw [hnumbers]
    exact isSome_lastOf hline ((numberIf_eq_some_iff hlines hline number).mpr ⟨rfl, hdefines⟩)

/-- A summary that holds, for each name, the last line from which `declared?` reads it. -/
theorem concur_of_declared :
    Concur kind file name lines (definitionIn kind file name (.found lines)) numbers := by
  have hfound : (∃ place, definitionIn kind file name (.found lines) = .found place) ↔
      numbers.contains name = true := by
    rw [found_iff_exists_definesAt, contains_iff_exists_definesAt hnumbers hlines]
  refine ⟨hfound, ?_, fun _ => first_of_found, fun _ => last_of_recorded hnumbers hlines, ?_⟩
  · rw [notFound_iff_not_found, hfound, Bool.not_eq_true]
  · intro place number hplace hnumber
    obtain ⟨-, hdefines, hearlier⟩ := first_of_found hplace
    obtain ⟨hdefines', hlater⟩ := last_of_recorded hnumbers hlines hnumber
    exact first_eq_last_iff hdefines hearlier hdefines' hlater

end Recorded

/-! ## Agreement -/

/-- The search for a name and the reading of names agree. A line defines a procedure if its
name can be read from the line and no word character follows, and a constant if its name
can be read. In every file that can be read, a procedure is found if and only if the summary
of the lines holds it, as long as names end plainly there, and a constant always; the line
that is found is the first one, the line in the summary the last one, and they are the same
if and only if the name is defined once. -/
theorem scan_agrees_with_summary (name : String) :
    (IsIdent name.toList →
      (∀ line : String, isDefinition .procedure name line = true ↔
        ∃ rest, procedureName? line.toList = some (name.toList, rest) ∧
          ∀ c ∈ rest.head?, isWordChar c = false) ∧
      ∀ (c : Context) (state : State) (file : Path) (lines : List String),
        Source.read c.world file = .found lines → NamesEndPlainly lines →
          ∃ lookup, ((Query.scan .procedure file name).run c state).1 = .ok lookup ∧
            Concur .procedure file name lines lookup (Summary.ofLines lines).procedures) ∧
    (isConstantName name = true →
      (∀ line : String, isDefinition .constant name line = true ↔
        ∃ rest, constantName? line.toList = some (name.toList, rest)) ∧
      ∀ (c : Context) (state : State) (file : Path) (lines : List String),
        Source.read c.world file = .found lines →
          ∃ lookup, ((Query.scan .constant file name).run c state).1 = .ok lookup ∧
            Concur .constant file name lines lookup (Summary.ofLines lines).constants) := by
  constructor
  · intro hname
    refine ⟨fun line => isDefinition_procedure_iff hname, ?_⟩
    intro c state file lines hread hplain
    have hscan := AnswersAlways.scan (c := c) .procedure file name state
    rw [hread] at hscan
    refine ⟨_, hscan, concur_of_declared (Summary.get?_procedures_ofLines lines name) ?_⟩
    exact fun line hline => isDefinition_iff_of_namesEndPlainly hname hplain hline
  · intro hname
    refine ⟨fun line => isDefinition_constant_iff hname, ?_⟩
    intro c state file lines hread
    have hscan := AnswersAlways.scan (c := c) .constant file name state
    rw [hread] at hscan
    refine ⟨_, hscan, concur_of_declared (Summary.get?_constants_ofLines lines name) ?_⟩
    exact fun line _ => isDefinition_constant_iff hname

def repeatedName : Context where
  world :=
    { tree := ⟨⟨[(["m.masm"], .file "proc A\nconst A = 1\nexport.A".toUTF8)]⟩⟩
      env := ⟨.empty, ⟨.slash, []⟩, [], 0⟩ }
  settings := {}
  registryRoot? := none

/-- The search finds the first line of the procedure and the summary holds the second; the
constant is defined once. -/
theorem scan_repeatedName :
    let file : Path := ⟨.slash, ["m.masm"]⟩
    let lines := ["proc A", "const A = 1", "export.A"]
    ((Query.scan .procedure file "A").run repeatedName .start).1 = .ok (.found ⟨file, 0, 5⟩) ∧
      (Summary.ofLines lines).procedures.get? "A" = some 2 ∧
      (¬ ∃! only, DefinesAt .procedure "A" lines only) ∧
      ((Query.scan .constant file "A").run repeatedName .start).1 = .ok (.found ⟨file, 1, 6⟩) ∧
      (Summary.ofLines lines).constants.get? "A" = some 1 ∧
      ∃! only, DefinesAt .constant "A" lines only := by
  intro file lines
  have hread : Source.read repeatedName.world file = .found lines := by decide +kernel
  have hplain : NamesEndPlainly lines := by decide +kernel
  have hconstant : isConstantName "A" = true := by decide
  obtain ⟨hprocedures, hconstants⟩ := scan_agrees_with_summary "A"
  obtain ⟨procedure, hprocedure, hconcur⟩ :=
    (hprocedures (isIdent_of_isConstantName hconstant)).2 repeatedName .start file lines hread
      hplain
  obtain ⟨constant, hconstant, hconcur'⟩ :=
    (hconstants hconstant).2 repeatedName .start file lines hread
  have hscan : ((Query.scan .procedure file "A").run repeatedName .start).1 =
      .ok (.found ⟨file, 0, 5⟩) := by
    decide +kernel
  have hscan' : ((Query.scan .constant file "A").run repeatedName .start).1 =
      .ok (.found ⟨file, 1, 6⟩) := by
    decide +kernel
  have hrecorded : (Summary.ofLines lines).procedures.get? "A" = some 2 := by decide +kernel
  have hrecorded' : (Summary.ofLines lines).constants.get? "A" = some 1 := by decide +kernel
  refine ⟨hscan, hrecorded, ?_, hscan', hrecorded', ?_⟩
  · rw [hscan] at hprocedure
    rw [← hconcur.once _ _ (Except.ok.inj hprocedure).symm hrecorded]
    decide
  · rw [hscan'] at hconstant
    rw [← hconcur'.once _ _ (Except.ok.inj hconstant).symm hrecorded']

end AsmNavigator.Session
