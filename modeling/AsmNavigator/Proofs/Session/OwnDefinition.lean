import AsmNavigator.Proofs.Session.DefinitionColumn

/-! # A definition is its own definition

At the name that a line defines, the ways to find a definition that come before the search
of the file do not apply: the line is no import, and the name is no part of a call. So the
answer is the place at which the search of the file found the name, whatever the caches
hold and whatever the file imports.
-/

namespace AsmNavigator

theorem Path.absoluteFrom_of_normal {p : Path} (habsolute : p.isAbsolute = true)
    (hnormal : p.normalize = p) (base : Path) : p.absoluteFrom base = p := by
  show (base.append p).normalize = p
  unfold Path.append
  rw [if_pos habsolute, hnormal]

namespace Session

open Source

variable {c : Context}

/-- Ways to find a definition that find nothing are passed over. -/
theorem AnswersAlways.tryStrategies_cons_none {site : Site} {strategy : Strategy}
    {rest : List Strategy} {a : Except Fault (Option Location)}
    (hnone : AnswersAlways c (Query.byStrategy site strategy) (.ok none))
    (hrest : AnswersAlways c (Query.tryStrategies site rest) a) :
    AnswersAlways c (Query.tryStrategies site (strategy :: rest)) a := by
  unfold Query.tryStrategies Query.firstHit
  exact AnswersAlways.bind_ok (v := none) (hnone.bind_ok (.pure none)) hrest

theorem AnswersAlways.tryStrategies_cons_some {site : Site} {strategy : Strategy}
    {place : Location} (hsome : AnswersAlways c (Query.byStrategy site strategy) (.ok (some place)))
    (rest : List Strategy) :
    AnswersAlways c (Query.tryStrategies site (strategy :: rest)) (.ok (some place)) := by
  unfold Query.tryStrategies Query.firstHit
  refine AnswersAlways.bind_ok (v := some place) ?_ (.pure _)
  exact hsome.bind_ok ((debug _ _).bind_ok (.pure _))

/-- A cursor on the name behind the opening of a line. -/
structure IsOwnSite (site : Site) (words : List String) (opening tail : List Char) : Prop where
  opens : Opens .procedure words opening
  line : site.line.toList = opening ++ (site.word.text.toList ++ tail)
  token : IsToken site.line.toList site.word
  start : site.word.start = opening.length

theorem IsOwnSite.answers {site : Site} {words : List String} {opening tail : List Char}
    (h : IsOwnSite site words opening tail) {place : Location}
    (hplace : definitionIn .procedure site.file site.word.text (Source.read c.world site.file) =
      .found place) :
    AnswersAlways c (Query.tryStrategies site Strategy.all) (.ok (some place)) := by
  have himport : AnswersAlways c (Query.byStrategy site .fromImport) (.ok none) := by
    unfold Query.byStrategy Query.fromImport
    rw [h.line, h.opens.import?_eq_none]
    exact .pure none
  have hqualified : AnswersAlways c (Query.byStrategy site .fromQualifiedCall) (.ok none) := by
    unfold Query.byStrategy Query.fromQualifiedCall
    rw [h.opens.callOfWord?_eq_none h.line h.start]
    exact .pure none
  have hlocal : AnswersAlways c (Query.byStrategy site .fromLocalCall) (.ok none) := by
    unfold Query.byStrategy Query.fromLocalCall
    rw [h.opens.localCall?_eq_none h.line h.token h.start]
    exact .pure none
  have hfile : AnswersAlways c (Query.byStrategy site .fromLocalDefinition)
      (.ok (some place)) :=
    (AnswersAlways.locateProcedure hplace).bind_ok (.pure _)
  unfold Strategy.all
  apply AnswersAlways.tryStrategies_cons_none himport
  apply AnswersAlways.tryStrategies_cons_none hqualified
  apply AnswersAlways.tryStrategies_cons_none hlocal
  exact .tryStrategies_cons_some hfile _

/-- Where the search of a file finds a procedure, the definition of the name in the line
that was found is the place that was found: at every column of the name, in every state
of the session, whatever the file imports, re-exports or defines elsewhere. -/
theorem definition_of_definition {file : Path} {name : String} {place : Location}
    {before : State} (habsolute : file.isAbsolute = true) (hnormal : file.normalize = file)
    (hname : IsIdent name.toList)
    (hscan : ((Query.scan .procedure file name).run c before).1 = .ok (.found place)) :
    ∃ text words opening tail, place.file = file ∧ c.IsLineAt place text ∧
      Opens .procedure words opening ∧ text.toList = opening ++ (name.toList ++ tail) ∧
      ∀ (state : State) (column : Int), opening.length ≤ column →
        column ≤ opening.length + name.length →
          ((Query.definition file text column).run c state).1 = .ok (some place) := by
  have hplace : definitionIn .procedure file name (Source.read c.world file) = .found place :=
    Except.ok.inj ((AnswersAlways.scan .procedure file name before).symm.trans hscan)
  obtain ⟨hfile, text, hline, hdefines⟩ := isLineAt_of_found hplace
  obtain ⟨rest, hrest⟩ := Option.isSome_iff_exists.mp hdefines
  obtain ⟨words, opening, tail, hopens, htext, htail⟩ := exists_opens_of_defines? hname hrest
  refine ⟨text, words, opening, tail, hfile, hline, hopens, htext, ?_⟩
  intro state column hlow hhigh
  have hword : wordAt text column = some ⟨name, opening.length⟩ := by
    have hword := hopens.wordAt hname htext htail hlow (by rwa [String.length_toList])
    rwa [String.ofList_toList] at hword
  have hnavigable : navigableWord? text column = some ⟨name, opening.length⟩ := by
    unfold navigableWord? Word.before
    rw [hword, Option.filter_some, htext, List.take_left, hopens.isQuiet.isExcluded]
    rfl
  have hanswers : AnswersAlways c (Query.definition file text column) (.ok (some place)) := by
    have habs : c.world.absolute file = file :=
      Path.absoluteFrom_of_normal habsolute hnormal c.world.env.cwd
    unfold Query.definition Query.definitionBy
    refine AnswersAlways.read.bind_ok ?_
    simp only [hnavigable, habs]
    refine AnswersAlways.summaryOf_bind fun summary => ?_
    have hsite : IsOwnSite ⟨file, text, ⟨name, opening.length⟩, summary⟩ words opening tail :=
      ⟨hopens, htext, isToken_of_wordAt hword, rfl⟩
    exact hsite.answers hplace
  exact hanswers state

def entangledFile : Context where
  world :=
    { tree := ⟨⟨[(["m.masm"], .file
          "use load\npub use load::run->load\n  pub proc load exec.load::run\nexport.load".toUTF8),
        (["load.masm"], .file "proc run".toUTF8)]⟩⟩
      env := ⟨.empty, ⟨.slash, []⟩, [], 0⟩ }
  settings := {}
  registryRoot? := none

/-- At the end of the name in the line that was found. -/
theorem definition_entangledFile :
    let file : Path := ⟨.slash, ["m.masm"]⟩
    let place : Location := ⟨file, 2, 11⟩
    ((Query.scan .procedure file "load").run entangledFile .start).1 = .ok (.found place) ∧
      ((Query.definition file "  pub proc load exec.load::run" 15).run entangledFile .start).1 =
        .ok (some place) := by
  intro file place
  have hname : IsIdent "load".toList := by decide
  have hscan : ((Query.scan .procedure file "load").run entangledFile .start).1 =
      .ok (.found place) := by
    decide +kernel
  have hread : Source.read entangledFile.world file = .found ["use load",
      "pub use load::run->load", "  pub proc load exec.load::run", "export.load"] := by
    decide +kernel
  obtain ⟨text, words, opening, tail, -, ⟨lines, hlines, hline⟩, hopens, htext, hanswers⟩ :=
    definition_of_definition (by decide) (by decide) hname hscan
  cases hread.symm.trans hlines
  cases hline
  have hspaces : AreBlank [' ', ' '] := by decide
  have hspace : IsSeparator [' '] := by decide
  have hknown : Opens .procedure _ "  pub proc ".toList := .published hspaces hspace hspace
  obtain ⟨rfl, -⟩ := hknown.unique hopens (hname.beginsWord " exec.load::run".toList)
    (hname.beginsWord tail) htext
  exact ⟨hscan, hanswers .start 15 (by decide) (by decide)⟩

end Session

end AsmNavigator
