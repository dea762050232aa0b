import AsmNavigator.Proofs.Session.Faults

/-! # Hover and definition at a qualified call

The documentation of a called procedure is looked for in the module first and along
re-exports only if the module does not define the procedure; the definition is looked for
along re-exports first. Both end at the same place, as long as the module does not define
a procedure that it re-exports as well.
-/

namespace AsmNavigator.Session

open Source Workspace

variable {c : Context}

/-! ## Where documentation is taken from -/

/-- Without a re-export of the name a search does not leave the file. -/
theorem source_of_no_reexport {s : Symbol} (h : (c.summary s.1).reexports.get? s.2 = none) :
    c.source s = .ok (c.direct s) := by
  unfold Context.source
  rw [← follow_eq_of_le s (Nat.le_succ c.walkLimit), follow_succ List.not_mem_nil,
    next_of_no_reexport h]

def Context.hoverAt (c : Context) (procedure : String) (place : Location) :
    Except Fault String := do
  let doc ← docComment (Source.read c.world place.file).lines place.line
  return Query.hoverText procedure place.file doc

def Context.documentation? (c : Context) (s : Symbol) : Except Fault (Option String) := do
  match ← c.source s with
  | none => return none
  | some place => return some (← c.hoverAt s.2 place)

theorem exists_line_of_firstDefinition? {kind : SymbolKind} {name : String}
    {lines : List String} {found : Nat × String}
    (h : firstDefinition? kind name lines = some found) :
    ∃ text ∈ lines, isDefinition kind name text = true := by
  obtain ⟨number, hnumber, -⟩ := Option.map_eq_some_iff.mp h
  obtain ⟨hlength, hdefines, -⟩ := List.findIdx?_eq_some_iff_getElem.mp hnumber
  exact ⟨lines[number], List.getElem_mem hlength, hdefines⟩

/-- The first definition in a module is what is found in it. -/
theorem direct_of_firstDefinition? {file : Path} {name : String} {number : Nat} {text : String}
    (h : firstDefinition? .procedure name (Source.read c.world file).lines = some (number, text)) :
    c.direct (file, name) = some ⟨file, number, columnOf name text⟩ := by
  unfold Context.direct
  cases hread : Source.read c.world file with
  | unreadable fault =>
      rw [hread] at h
      cases h
  | found lines =>
      rw [hread] at h
      simp only [definitionIn]
      rw [show firstDefinition? .procedure name lines = some (number, text) from h]
      rfl

/-- What is documented is what the search along re-exports finds, unless the module defines
a procedure that it re-exports as well. -/
theorem answers_documentation {target : Path} {procedure : String}
    (honce : ¬ ((∃ text ∈ (Source.read c.world target).lines,
        isDefinition .procedure procedure text = true) ∧
      ((c.summary target).reexports.get? procedure).isSome = true)) :
    Answers c (fun _ => True) (Query.documentation? target procedure)
      (c.documentation? (target, procedure)) := by
  have hdocument : ∀ place : Location, Answers c (fun _ => True) (do
      return some (Query.hoverText procedure place.file (← Query.ofExcept
        (docComment (Source.read c.world place.file).lines place.line))))
      (do return some (← c.hoverAt procedure place)) := by
    intro place
    unfold Context.hoverAt
    rw [bind_assoc]
    exact (Answers.ofExcept _).bind fun doc _ => .pure _
  unfold Query.documentation? Context.documentation?
  refine (Answers.readSource target).bind_ok ?_
  simp only
  cases hfirst : firstDefinition? .procedure procedure (Source.read c.world target).lines with
  | some found =>
      obtain ⟨number, text⟩ := found
      have hnone : (c.summary target).reexports.get? procedure = none := by
        by_contra hsome
        exact honce ⟨exists_line_of_firstDefinition? hfirst, Option.isSome_iff_ne_none.mpr hsome⟩
      rw [source_of_no_reexport (s := (target, procedure)) hnone,
        direct_of_firstDefinition? hfirst]
      exact hdocument ⟨target, number, columnOf procedure text⟩
  | none =>
      refine (Answers.findSource (fun _ _ => True.intro) (fun _ _ => True.intro)
        (s := (target, procedure)) True.intro).bind fun place? _ => ?_
      cases place? with
      | none => exact .pure none
      | some place => exact (Answers.readSource place.file).bind_ok (hdocument place)

/-! ## A qualified call -/

/-- A cursor on the procedure of a qualified call, outside of comments and texts. -/
structure IsAtCall (line : String) (column : Int) (word : Word) (call : QualifiedCall) :
    Prop where
  isWord : wordAt line column = some word
  notExcluded : isExcluded (word.before line) = false
  isCall : callOfWord? line word = some call
  start : word.start = call.procedureStart

variable {path target : Path} {line : String} {column : Int} {word : Word} {call : QualifiedCall}

theorem IsAtCall.navigableWord? (h : IsAtCall line column word call) :
    Session.navigableWord? line column = some word := by
  unfold Session.navigableWord?
  rw [h.isWord, Option.filter_some, h.notExcluded]
  rfl

theorem IsAtCall.start_ne (h : IsAtCall line column word call) :
    word.start ≠ call.moduleStart := by
  have hlt := moduleStart_lt_of_mem_qualifiedCalls (List.mem_of_find?_eq_some h.isCall)
  rw [h.start]
  omega

def Context.moduleOf (c : Context) (file : Path) (call : QualifiedCall) :
    Except Fault (Option Path) :=
  c.resolution file (c.expressionFor file call.moduleName)

theorem answers_moduleNamed (file : Path) (call : QualifiedCall) :
    Answers c (fun _ => True) (Query.moduleNamed? file call.moduleName (c.summary file))
      (c.moduleOf file call) :=
  answers_resolve file call.moduleName _

theorem answers_hover (hat : IsAtCall line column word call)
    (hmodule : c.moduleOf (c.world.absolute path) call = .ok (some target))
    {a : Except Fault (Option String)}
    (hdocumentation : Answers c (fun _ => True) (Query.documentation? target call.procedure) a) :
    Answers c (fun _ => True) (Query.hover path line column) a := by
  have hnamed := answers_moduleNamed (c := c) (c.world.absolute path) call
  rw [hmodule] at hnamed
  unfold Query.hover
  refine Answers.read.bind_ok ?_
  simp only [hat.navigableWord?, hat.isCall, hat.start, ne_eq, not_true, if_false]
  exact (answers_summaryOf _).bind_ok (hnamed.bind_ok hdocumentation)

/-- At a call the search along re-exports comes before everything else. -/
theorem answers_fromQualifiedCall (hat : IsAtCall line column word call) {file : Path}
    (hmodule : c.moduleOf file call = .ok (some target)) {a : Except Fault (Option Location)}
    (hsource : c.source (target, call.procedure) = a) (hfound : a ≠ .ok none) :
    Answers c (fun _ => True) (Query.fromQualifiedCall ⟨file, line, word, c.summary file⟩) a := by
  have hnamed := answers_moduleNamed (c := c) file call
  rw [hmodule] at hnamed
  have hsearch := Answers.findSource (c := c) (K := fun _ => True) (fun _ _ => True.intro)
    (fun _ _ => True.intro) (s := (target, call.procedure)) True.intro
  rw [hsource] at hsearch
  unfold Query.fromQualifiedCall
  simp only [hat.isCall]
  refine hnamed.bind_ok ?_
  simp only [hat.start_ne, if_false]
  rcases a with fault | _ | place
  · exact hsearch.bind_error
  · exact absurd rfl hfound
  · exact hsearch.bind_ok (.pure _)

theorem answers_definition (hat : IsAtCall line column word call)
    (himport : import? line.toList = none)
    (hmodule : c.moduleOf (c.world.absolute path) call = .ok (some target))
    {a : Except Fault (Option Location)} (hsource : c.source (target, call.procedure) = a)
    (hfound : a ≠ .ok none) :
    Answers c (fun _ => True) (Query.definition path line column) a := by
  have hcall := answers_fromQualifiedCall hat hmodule hsource hfound
  unfold Query.definition Query.definitionBy
  refine Answers.read.bind_ok ?_
  simp only [hat.navigableWord?]
  refine (answers_summaryOf _).bind_ok ?_
  have himported : Answers c (fun _ => True)
      (Query.byStrategy ⟨c.world.absolute path, line, word, c.summary (c.world.absolute path)⟩
        .fromImport) (.ok none) := by
    simp only [Query.byStrategy, Query.fromImport, himport]
    exact .pure none
  exact himported.tryStrategies_cons_none (hcall.tryStrategies_cons hfound _)

/-- The comment above a place that a search has found. -/
theorem exists_docComment_of_source {s : Symbol} {place : Location}
    (h : c.source s = .ok (some place)) :
    ∃ lines doc, Source.read c.world place.file = .found lines ∧
      docComment lines place.line = .ok doc := by
  have hlength := lt_length_of_source h
  cases hread : Source.read c.world place.file with
  | unreadable fault =>
      rw [hread] at hlength
      cases hlength
  | found lines =>
      rw [hread] at hlength
      obtain ⟨doc, hdoc⟩ := docComment_of_le hlength.le
      exact ⟨lines, doc, rfl, hdoc⟩

/-- Hover documents the procedure that definition jumps to. At a call of a procedure in a
module that does not both define and re-export it, hover and definition are refused if the
search along re-exports is; hover says nothing exactly if the search finds nothing; and
where it finds a place, definition goes there and hover shows the comment above it, or the
name of its file. -/
theorem hover_documents_definition {state : State}
    (hcaches : state.caches.Agree c fun _ => True) (himport : import? line.toList = none)
    (hat : IsAtCall line column word call)
    (hresolves : ((Query.summaryOf (c.world.absolute path) >>=
      Query.moduleNamed? (c.world.absolute path) call.moduleName).run c state).1 =
        .ok (some target))
    (honce : ¬ ((∃ text ∈ (Source.read c.world target).lines,
        isDefinition .procedure call.procedure text = true) ∧
      ((c.summary target).reexports.get? call.procedure).isSome = true)) :
    let found := ((Query.findSource? target call.procedure).run c state).1
    let hovered := ((Query.hover path line column).run c state).1
    let defined := ((Query.definition path line column).run c state).1
    (∀ fault, found = .error fault → hovered = .error fault ∧ defined = .error fault) ∧
      (hovered = .ok none ↔ found = .ok none) ∧
      ∀ place, found = .ok (some place) →
        defined = .ok (some place) ∧
          ∃ lines doc, Source.read c.world place.file = .found lines ∧
            docComment lines place.line = .ok doc ∧
            hovered = .ok (some
              (if doc.isEmpty then "**" ++ call.procedure ++ "** in `" ++ place.file.name ++ "`"
              else "```\n" ++ Text.kept (String.intercalate "\n" doc) ++ "\n```")) := by
  intro found hovered defined
  have hmodule : c.moduleOf (c.world.absolute path) call = .ok (some target) := by
    rw [← hresolves]
    exact ((answers_summaryOf _).bind_ok (answers_moduleNamed _ call) state hcaches).1.symm
  have hfound : found = c.source (target, call.procedure) :=
    (Answers.findSource (fun _ _ => True.intro) (fun _ _ => True.intro)
      (s := (target, call.procedure)) True.intro state hcaches).1
  have hhovered : hovered = c.documentation? (target, call.procedure) :=
    (answers_hover hat hmodule (answers_documentation honce) state hcaches).1
  have hdefined : c.source (target, call.procedure) ≠ .ok none →
      defined = c.source (target, call.procedure) := fun hsome =>
    (answers_definition hat himport hmodule rfl hsome state hcaches).1
  rw [hfound, hhovered]
  unfold Context.documentation?
  rcases hsource : c.source (target, call.procedure) with fault | _ | place
  · rw [hsource] at hdefined
    refine ⟨?_, by simp [bind, Except.bind], by simp⟩
    rintro fault ⟨⟩
    exact ⟨rfl, hdefined (by simp)⟩
  · exact ⟨by simp, ⟨fun _ => rfl, fun _ => rfl⟩, by simp⟩
  · rw [hsource] at hdefined
    obtain ⟨lines, doc, hlines, hdoc⟩ := exists_docComment_of_source hsource
    have hhover : c.hoverAt call.procedure place =
        .ok (Query.hoverText call.procedure place.file doc) := by
      unfold Context.hoverAt
      rw [hlines]
      exact congrArg (· >>= _) hdoc
    refine ⟨by simp, ?_, ?_⟩
    · simp [hhover, bind, Except.bind, pure, Except.pure]
    · rintro place ⟨⟩
      refine ⟨hdefined (by simp), lines, doc, hlines, hdoc, ?_⟩
      simp only [hhover, bind, Except.bind]
      rfl

def documentedReexport : Context where
  world :=
    { tree := ⟨⟨[(["b.masm"], .file "pub use d::q->p\n".toUTF8),
        (["d.masm"], .file "#! Adds.\nproc q\nend\n".toUTF8)]⟩⟩
      env := ⟨.empty, ⟨.slash, []⟩, [], 0⟩ }
  settings := {}
  registryRoot? := none

/-- Hover shows the comment in the other module, where definition goes. -/
theorem hover_documentedReexport :
    let place : Location := ⟨⟨.slash, ["d.masm"]⟩, 1, 5⟩
    ((Query.definition ⟨.slash, ["a.masm"]⟩ "exec.b::p" 8).run documentedReexport .start).1 =
        .ok (some place) ∧
      ((Query.hover ⟨.slash, ["a.masm"]⟩ "exec.b::p" 8).run documentedReexport .start).1 =
        .ok (some "```\nAdds.\n```") := by
  intro place
  have hat : IsAtCall "exec.b::p" 8 ⟨"p", 8⟩ ⟨"b", 5, "p", 8⟩ :=
    ⟨by decide +kernel, by decide +kernel, by decide +kernel, rfl⟩
  have hfound : ((Query.findSource? ⟨.slash, ["b.masm"]⟩ "p").run documentedReexport .start).1 =
      .ok (some place) := by
    decide +kernel
  have hread : Source.read documentedReexport.world ⟨.slash, ["d.masm"]⟩ =
      .found ["#! Adds.", "proc q", "end", ""] := by
    decide +kernel
  have hcomment : docComment ["#! Adds.", "proc q", "end", ""] 1 = .ok ["Adds."] := by
    decide +kernel
  obtain ⟨-, -, hplace⟩ := @hover_documents_definition documentedReexport ⟨.slash, ["a.masm"]⟩
    ⟨.slash, ["b.masm"]⟩ _ _ _ _ .start (Caches.agree_empty _ _) (by decide +kernel) hat
    (by decide +kernel) (by decide +kernel)
  obtain ⟨hdefined, lines, doc, hlines, hdoc, hhovered⟩ := hplace place hfound
  cases hread.symm.trans hlines
  cases hcomment.symm.trans hdoc
  have hshown : "```\n" ++ Text.kept (String.intercalate "\n" ["Adds."]) ++ "\n```" =
      "```\nAdds.\n```" := by
    decide +kernel
  refine ⟨hdefined, hhovered.trans ?_⟩
  rw [← hshown]
  rfl

end AsmNavigator.Session
