import AsmNavigator.Proofs.Session.DefinitionSound
import AsmNavigator.Proofs.Session.ScanAndSummary
import AsmNavigator.Proofs.Source.DefinedName

/-! # The column of a definition

The column that comes with a definition is that of the first occurrence of the name in
the line, wherever it is. This is the name that the line defines, unless one of the
keywords before it holds the name.
-/

namespace AsmNavigator.Session

open Source

def Query.locate : SymbolKind → Path → String → Query Lookup
  | .procedure => locateProcedure
  | .constant => locateConstant

variable {c : Context} {state : State} {kind : SymbolKind} {file : Path} {name : String}
  {place : Location}

theorem isLineAt_of_found
    (h : definitionIn kind file name (Source.read c.world file) = .found place) :
    place.file = file ∧ ∃ text, c.IsLineAt place text ∧ isDefinition kind name text = true := by
  apply isLineAt_of_definitionIn
  rw [h]
  rfl

theorem file_of_locateProcedure
    (h : ((Query.locateProcedure file name).run c state).1 = .ok (.found place)) :
    place.file = file := by
  obtain ⟨lookup, s, hscan, hrest⟩ := exists_of_run_bind h
  rw [AnswersAlways.scan .procedure file name state] at hscan
  obtain rfl := Except.ok.inj hscan
  cases hlookup : definitionIn .procedure file name (Source.read c.world file) with
  | unreadable =>
      rw [hlookup] at hrest
      cases hrest
  | found other =>
      rw [hlookup] at hrest
      cases hrest
      exact (isLineAt_of_found hlookup).1
  | notFound =>
      rw [hlookup] at hrest
      obtain ⟨summary, s, -, hrest⟩ := exists_of_run_bind hrest
      cases hget : summary.reexports.get? name with
      | none =>
          simp only [hget] at hrest
          cases hrest
      | some reexport =>
          simp only [hget] at hrest
          obtain ⟨result, s, -, hrest⟩ := exists_of_run_bind hrest
          cases hrest
          rfl

/-- A place whose line defines the name is what the search of the file's lines gives, and
no re-export. -/
theorem definitionIn_of_locate {text : String}
    (h : ((Query.locate kind file name).run c state).1 = .ok (.found place))
    (hline : c.IsLineAt place text) (hdefines : isDefinition kind name text = true) :
    definitionIn kind file name (Source.read c.world file) = .found place := by
  have hscan := AnswersAlways.scan (c := c) kind file name state
  cases kind with
  | constant => exact Except.ok.inj (hscan.symm.trans h)
  | procedure =>
      have hfile : place.file = file := file_of_locateProcedure h
      obtain ⟨lines, hread, htext⟩ := hline
      rw [hfile] at hread
      rcases definitionIn_cases .procedure file name lines with ⟨found, hfound⟩ | ⟨-, hnone⟩
      · rw [hread]
        rw [← hread] at hfound
        have hanswer := AnswersAlways.locateProcedure hfound state
        rw [hread] at hfound
        rw [hfound, ← Except.ok.inj (hanswer.symm.trans h)]
      · exact absurd ⟨text, htext, hdefines⟩ (hnone place.line)

/-- Where the search of lines finds a name, its column is that of the first occurrence. -/
theorem column_of_definitionIn {text : String}
    (h : definitionIn kind file name (Source.read c.world file) = .found place)
    (hline : c.IsLineAt place text) : place.column = columnOf name text := by
  obtain ⟨lines, hread, htext⟩ := hline
  have hfile : place.file = file := (isLineAt_of_found h).1
  rw [hfile] at hread
  rw [hread] at h
  obtain ⟨line, hplace, -, -, heq⟩ := exists_line_of_found h
  have hsame : line = text := Option.some.inj (hplace.symm.trans htext)
  rw [← hsame]
  exact congrArg Location.column heq

/-- The line of a direct definition opens with keywords and goes on with the name, which is
a word there. The column of the definition is that of the first occurrence of the name in
the line: the place behind the opening, if no keyword of the opening holds the name, and
otherwise a place before it. -/
theorem column_of_direct_definition {text : String} (hname : IsIdent name.toList)
    (hfound : ((Query.locate kind file name).run c state).1 = .ok (.found place))
    (hline : c.IsLineAt place text) (hdefines : isDefinition kind name text = true) :
    ∃ words opening tail, Opens kind words opening ∧
      text.toList = opening ++ (name.toList ++ tail) ∧
      wordAt text opening.length = some ⟨name, opening.length⟩ ∧
      Text.indexOfText? name.toList text.toList = some place.column ∧
      (place.column = opening.length ↔ ∀ word ∈ words, ¬ name.toList <:+: word.toList) ∧
      place.column ≤ opening.length := by
  have hscan := definitionIn_of_locate hfound hline hdefines
  have hcolumn : place.column = columnOf name text := column_of_definitionIn hscan hline
  obtain ⟨rest, hrest⟩ := Option.isSome_iff_exists.mp hdefines
  obtain ⟨words, opening, tail, hopens, htext, htail⟩ := exists_opens_of_defines? hname hrest
  have hword := hopens.wordAt hname htext htail (Int.le_refl _) (by omega)
  rw [String.ofList_toList] at hword
  obtain ⟨first, hle, hfirst, hiff⟩ := hopens.exists_indexOfText? hname tail
  rw [← htext] at hfirst
  have hfirst' : first = place.column := by
    rw [hcolumn, columnOf, hfirst]
    rfl
  rw [hfirst'] at hle hfirst hiff
  exact ⟨words, opening, tail, hopens, htext, hword, hfirst, hiff, hle⟩

def shortName : Context where
  world :=
    { tree := ⟨⟨[(["m.masm"], .file "proc p\n  pub proc load".toUTF8)]⟩⟩
      env := ⟨.empty, ⟨.slash, []⟩, [], 0⟩ }
  settings := {}
  registryRoot? := none

/-- The column of `load` is that of the name, the column of `p` is that of the keyword. -/
theorem column_shortName :
    let file : Path := ⟨.slash, ["m.masm"]⟩
    ((Query.locate .procedure file "load").run shortName .start).1 =
        .ok (.found ⟨file, 1, 11⟩) ∧
      wordAt "  pub proc load" 11 = some ⟨"load", 11⟩ ∧
      ((Query.locate .procedure file "p").run shortName .start).1 = .ok (.found ⟨file, 0, 0⟩) ∧
      ∃ column : Nat, 0 < column ∧ wordAt "proc p" column = some ⟨"p", column⟩ := by
  intro file
  have hlines : Source.read shortName.world file = .found ["proc p", "  pub proc load"] := by
    decide +kernel
  have hload : ((Query.locate .procedure file "load").run shortName .start).1 =
      .ok (.found ⟨file, 1, 11⟩) := by
    decide +kernel
  have hp : ((Query.locate .procedure file "p").run shortName .start).1 =
      .ok (.found ⟨file, 0, 0⟩) := by
    decide +kernel
  have hidentLoad : IsIdent "load".toList := by decide
  have hidentP : IsIdent "p".toList := by decide
  refine ⟨hload, ?_, hp, ?_⟩
  · obtain ⟨words, opening, tail, hopens, -, hword, -, hiff, -⟩ :=
      column_of_direct_definition hidentLoad hload ⟨_, hlines, rfl⟩ (by decide +kernel)
    have houtside : ∀ word ∈ words, ¬ "load".toList <:+: word.toList := by
      cases hopens <;> decide +kernel
    have hcolumn : 11 = opening.length := hiff.mpr houtside
    rw [← hcolumn] at hword
    exact hword
  · obtain ⟨words, opening, tail, hopens, -, hword, -, hiff, hle⟩ :=
      column_of_direct_definition hidentP hp ⟨_, hlines, rfl⟩ (by decide +kernel)
    have hinside : ¬ ∀ word ∈ words, ¬ "p".toList <:+: word.toList := by
      cases hopens <;> decide +kernel
    have hne : 0 ≠ opening.length := fun heq => hinside (hiff.mp heq)
    exact ⟨opening.length, by omega, hword⟩

end AsmNavigator.Session
