import AsmNavigator.Proofs.Source.LastDeclaration
import AsmNavigator.Proofs.Source.Recognisers

/-! # Summarising undoes writing

Declarations as data, the lines in which they are written, and the way back: from the
lines of any declarations the summary recovers, for each name, what the last declaration
of that name says. The four recognisers overlap, so for each form of declaration it is
settled what every one of them makes of it.
-/

namespace AsmNavigator.Source

open Text

/-! ## Declarations -/

abbrev Ident := { name : String // IsIdent name.toList }

abbrev ConstantName := { name : String // isConstantName name = true }

/-- One or more names, of which the first may begin with a dollar sign. -/
abbrev ImportPath := { segments : List String // AreSegments segments }

inductive ProcedureForm where
  | plain
  | published
  | exported

/-- A line that none of the recognisers takes. -/
structure DeclaresNothing (line : List Char) : Prop where
  noImport : import? line = none
  noRenaming : renaming? line = none
  noProcedure : procedureName? line = none
  noConstant : constantName? line = none

inductive Declaration where
  | use (path : ImportPath) (alias? : Option Ident)
  | publish (moduleName declared exported : Ident)
  | procedure (form : ProcedureForm) (name : Ident)
  | constant (published : Bool) (name : ConstantName) (value : String)
  | other (text : List Char) (h : DeclaresNothing text)

def ProcedureForm.opening : ProcedureForm → List Char
  | .plain => "proc ".toList
  | .published => "pub proc ".toList
  | .exported => "export.".toList

def aliasText : Option Ident → List Char
  | none => []
  | some name => '-' :: '>' :: name.1.toList

namespace Declaration

def written : Declaration → List Char
  | .use path alias? => "use ".toList ++ ((joinSegments path.1).toList ++ aliasText alias?)
  | .publish moduleName declared exported =>
      "pub use ".toList ++ (moduleName.1.toList ++ ':' :: ':' :: (declared.1.toList ++
        aliasText (some exported)))
  | .procedure form name => form.opening ++ name.1.toList
  | .constant published name value =>
      (if published then "pub const ".toList else "const ".toList) ++
        (name.1.toList ++ (" = ".toList ++ value.toList))
  | .other text _ => text

def import? : Declaration → Option Import
  | .use path alias? => some ⟨path.1, alias?.map (·.1)⟩
  | _ => none

/-- The path that a `use` gives to a name, which is its last segment or its alias. -/
def pathOf? (name : String) : Declaration → Option String
  | .use path alias? =>
      if path.1.getLast? = some name ∨ alias?.map (·.1) = some name then
        some (joinSegments path.1)
      else none
  | _ => none

/-- What a declaration re-exports: every `pub use` does, and so does a `use` with an alias
and a path of two segments without dollar sign. -/
def renaming? : Declaration → Option Renaming
  | .use ⟨[moduleName, declared], _⟩ (some exported) =>
      if moduleName.toList.head? = some '$' then none
      else some ⟨moduleName, declared, exported.1⟩
  | .publish moduleName declared exported => some ⟨moduleName.1, declared.1, exported.1⟩
  | _ => none

def reexportsFrom (moduleName : String) (d : Declaration) : Bool :=
  d.renaming?.any (·.moduleName = moduleName)

def reexportOf? (name : String) (d : Declaration) (number : Nat) : Option Reexport :=
  match d.renaming? with
  | some r => if r.exported = name then some ⟨r.moduleName, r.declared, number⟩ else none
  | none => none

def procedure? : Declaration → Option String
  | .procedure _ name => some name.1
  | _ => none

def constant? : Declaration → Option String
  | .constant _ name _ => some name.1
  | _ => none

end Declaration

/-- A declaration in a line of its own, after any blanks. -/
structure WrittenLine where
  indent : List Char
  isBlank_indent : ∀ c ∈ indent, isBlank c = true
  declaration : Declaration

def WrittenLine.text (line : WrittenLine) : String :=
  String.ofList (line.indent ++ line.declaration.written)

/-! ## Blanks -/

theorem isBlank_eq_false_of_isHeadStart {c : Char} (h : isHeadStart c = true) :
    isBlank c = false := by
  have hcode : c.toNat = 36 ∨ 65 ≤ c.toNat ∧ c.toNat ≤ 122 := by
    have halpha : c.isAlpha = (decide (c.val ≥ 'A'.val ∧ c.val ≤ 'Z'.val) ||
        decide (c.val ≥ 'a'.val) && decide (c.val ≤ 'z'.val)) := rfl
    simp only [isHeadStart, isIdentStart, halpha, Bool.or_eq_true, Bool.and_eq_true,
      decide_eq_true_eq, beq_iff_eq] at h
    rcases h with ((⟨hlow, hhigh⟩ | ⟨hlow, hhigh⟩) | rfl) | rfl
    · exact .inr ⟨hlow, Nat.le_trans hhigh (by decide)⟩
    · exact .inr ⟨Nat.le_trans (by decide) hlow, hhigh⟩
    · decide
    · decide
  rw [Bool.eq_false_iff]
  intro hblank
  simp only [isBlank, Bool.or_eq_true, Bool.and_eq_true, decide_eq_true_eq, beq_iff_eq] at hblank
  omega

def BeginsWord (cs : List Char) : Prop := ∀ c ∈ cs.head?, isBlank c = false

theorem IsHead.beginsWord {name : List Char} (h : IsHead name) (rest : List Char) :
    BeginsWord (name ++ rest) := by
  obtain ⟨first, tail, rfl, hfirst, -⟩ := h
  intro c hc
  cases hc
  exact isBlank_eq_false_of_isHeadStart hfirst

theorem IsIdent.isHead {name : List Char} (h : IsIdent name) : IsHead name := by
  obtain ⟨first, rest, rfl, hfirst, hrest⟩ := h
  exact ⟨first, rest, rfl, by simp [isHeadStart, hfirst], hrest⟩

theorem skipBlanks?_space {cs : List Char} (h : BeginsWord cs) :
    skipBlanks? (' ' :: cs) = some cs := by
  have hdrop : cs.dropWhile isBlank = cs := by
    cases cs with
    | nil => rfl
    | cons c cs => simp [h c rfl]
  show some (cs.dropWhile isBlank) = some cs
  rw [hdrop]

theorem skipOptionalBlanks_append {indent : List Char} (h : ∀ c ∈ indent, isBlank c = true)
    (cs : List Char) : skipOptionalBlanks (indent ++ cs) = skipOptionalBlanks cs :=
  List.dropWhile_append_of_pos h

theorem takeIdent?_whole {name : List Char} (h : IsIdent name) :
    takeIdent? name = some (name, []) := by
  have htake := takeIdent?_append h (show ∀ d ∈ [].head?, isIdentChar d = false by simp)
  rwa [List.append_nil] at htake

/-! ## Imports -/

theorem toList_joinSegments (head : String) (rest : List String) :
    (joinSegments (head :: rest)).toList =
      head.toList ++ rest.flatMap fun segment => ':' :: ':' :: segment.toList := by
  unfold joinSegments
  rw [String.toList_intercalate, List.map_cons]
  induction rest generalizing head with
  | nil => simp
  | cons next rest ih =>
      rw [List.map_cons, List.intercalate_cons_cons, ih next]
      simp

/-- What cannot follow a path as a part of it. -/
def EndsPath (cs : List Char) : Prop := ∀ c ∈ cs.head?, isIdentChar c = false ∧ c ≠ ':'

theorem endsPath_aliasText (alias? : Option Ident) : EndsPath (aliasText alias?) := by
  intro c hc
  cases alias? with
  | none => cases hc
  | some name =>
      cases hc
      decide

theorem EndsPath.dropPrefix? {cs : List Char} (h : EndsPath cs) :
    dropPrefix? [':', ':'] cs = none := by
  cases cs with
  | nil => rfl
  | cons c cs => simp [Text.dropPrefix?, (h c rfl).2.symm]

theorem EndsPath.segments {cs : List Char} (h : EndsPath cs) (segments : List String) :
    ∀ c ∈ (segments.flatMap (fun segment => ':' :: ':' :: segment.toList) ++ cs).head?,
      isIdentChar c = false := by
  intro c hc
  cases segments with
  | nil => exact (h c hc).1
  | cons segment rest =>
      cases hc
      decide

theorem takeSegments_flatMap {segments : List String}
    (hsegments : ∀ segment ∈ segments, IsIdent segment.toList) {rest : List Char}
    (hrest : EndsPath rest) {fuel : Nat} (hfuel : segments.length ≤ fuel) :
    takeSegments fuel (segments.flatMap (fun segment => ':' :: ':' :: segment.toList) ++ rest) =
      (segments.map String.toList, rest) := by
  induction segments generalizing fuel with
  | nil =>
      cases fuel with
      | zero => rfl
      | succ fuel => simp [takeSegments, hrest.dropPrefix?]
  | cons segment segments ih =>
      cases fuel with
      | zero => simp at hfuel
      | succ fuel =>
          have hmore := ih (fun s hs => hsegments s (List.mem_cons_of_mem _ hs))
            (Nat.le_of_succ_le_succ hfuel)
          have htake := takeIdent?_append (hsegments segment (by simp)) (hrest.segments segments)
          simp only [List.flatMap_cons, List.cons_append, List.append_assoc, takeSegments,
            Text.dropPrefix?, if_true, Option.bind_some, htake, hmore, List.map_cons]

theorem length_le_flatMap (segments : List String) (rest : List Char) :
    segments.length ≤
      (segments.flatMap (fun segment => ':' :: ':' :: segment.toList) ++ rest).length := by
  induction segments with
  | nil => simp
  | cons segment segments ih =>
      simp only [List.flatMap_cons, List.length_append, List.length_cons] at ih ⊢
      omega

theorem takeAlias?_aliasText (alias? : Option Ident) :
    (takeAlias? (aliasText alias?)).map String.ofList = alias?.map (·.1) := by
  cases alias? with
  | none => rfl
  | some name =>
      have hblank : skipOptionalBlanks name.1.toList = name.1.toList := by
        have hspace := skipBlanks?_space (name.2.isHead.beginsWord [])
        simpa [skipBlanks?, skipOptionalBlanks, isBlank] using hspace
      have htake := takeIdent?_whole name.2
      show ((takeIdent? (skipOptionalBlanks name.1.toList)).map (·.1)).map String.ofList = _
      rw [hblank, htake]
      simp

theorem skipBlanks?_path {head : String} (hhead : IsHead head.toList) (rest : List String)
    (cs : List Char) :
    skipBlanks? (' ' :: ((joinSegments (head :: rest)).toList ++ cs)) =
      some ((joinSegments (head :: rest)).toList ++ cs) := by
  refine skipBlanks?_space ?_
  rw [toList_joinSegments, List.append_assoc]
  exact hhead.beginsWord _

theorem import?_use (path : ImportPath) (alias? : Option Ident) :
    Source.import? (Declaration.use path alias?).written =
      some ⟨path.1, alias?.map (·.1)⟩ := by
  obtain ⟨segments, hsegments⟩ := path
  cases hsegments with
  | @cons head rest hhead hrest =>
      have hend := endsPath_aliasText alias?
      have hafter : afterKeyword? "use" (skipOptionalBlanks
          (Declaration.use ⟨head :: rest, .cons hhead hrest⟩ alias?).written) =
          some ((joinSegments (head :: rest)).toList ++ aliasText alias?) :=
        skipBlanks?_path hhead rest _
      have htake : takeRun? isHeadStart isIdentChar
          ((joinSegments (head :: rest)).toList ++ aliasText alias?) =
          some (head.toList, rest.flatMap (fun segment => ':' :: ':' :: segment.toList) ++
            aliasText alias?) := by
        obtain ⟨first, tail, heq, hfirst, htail⟩ := hhead
        rw [toList_joinSegments, heq, List.append_assoc]
        exact takeRun?_append hfirst htail (hend.segments rest)
      have hfuel := length_le_flatMap rest (aliasText alias?)
      simp only [import?, hafter, htake, Option.bind_eq_bind, Option.bind_some,
        takeSegments_flatMap hrest hend hfuel, takeAlias?_aliasText]
      simp

/-! ## Re-exports -/

def renamingIn? (body : List Char) : Option Renaming := do
  let (moduleName, rest) ← takeIdent? body
  let rest ← dropPrefix? [':', ':'] rest
  let (declared, rest) ← takeIdent? rest
  let rest ← dropPrefix? ['-', '>'] rest
  let (exported, _) ← takeIdent? rest
  some ⟨String.ofList moduleName, String.ofList declared, String.ofList exported⟩

theorem renaming?_eq {line body : List Char}
    (h : afterKeyword? "use" (afterPublic (skipOptionalBlanks line)) = some body) :
    renaming? line = renamingIn? body := by
  simp only [renaming?, h, Option.bind_eq_bind, Option.bind_some]
  rfl

theorem renamingIn?_cons (head : Ident) {declared : String} (more : List String)
    (hdeclared : IsIdent declared.toList) (alias? : Option Ident) :
    renamingIn? (head.1.toList ++ ((declared :: more).flatMap (fun segment =>
        ':' :: ':' :: segment.toList) ++ aliasText alias?)) =
      if more = [] then alias?.map fun exported => ⟨head.1, declared, exported.1⟩ else none := by
  have hend := endsPath_aliasText alias?
  have hhead := takeIdent?_append head.2 (hend.segments (declared :: more))
  have htake := takeIdent?_append hdeclared (hend.segments more)
  simp only [renamingIn?, hhead, Option.bind_eq_bind, Option.bind_some]
  simp only [List.flatMap_cons, List.cons_append, List.append_assoc, Text.dropPrefix?, if_true,
    Option.bind_some, htake]
  cases more with
  | cons next more => simp [Text.dropPrefix?]
  | nil =>
      cases alias? with
      | none => rfl
      | some exported => simp [aliasText, Text.dropPrefix?, takeIdent?_whole exported.2]

theorem renaming?_publish (moduleName declared exported : Ident) :
    renaming? (Declaration.publish moduleName declared exported).written =
      some ⟨moduleName.1, declared.1, exported.1⟩ := by
  have hafter : afterKeyword? "use" (afterPublic (skipOptionalBlanks
      (Declaration.publish moduleName declared exported).written)) =
      some (moduleName.1.toList ++ ':' :: ':' :: (declared.1.toList ++
        aliasText (some exported))) :=
    skipBlanks?_space (moduleName.2.isHead.beginsWord _)
  have hbody := renamingIn?_cons moduleName [] declared.2 (some exported)
  rw [renaming?_eq hafter]
  simpa using hbody

theorem renaming?_use (path : ImportPath) (alias? : Option Ident) :
    renaming? (Declaration.use path alias?).written =
      (Declaration.use path alias?).renaming? := by
  obtain ⟨segments, hsegments⟩ := path
  cases hsegments with
  | @cons head rest hhead hrest =>
      have hafter : afterKeyword? "use" (afterPublic (skipOptionalBlanks
          (Declaration.use ⟨head :: rest, .cons hhead hrest⟩ alias?).written)) =
          some (head.toList ++ (rest.flatMap (fun segment => ':' :: ':' :: segment.toList) ++
            aliasText alias?)) := by
        rw [← List.append_assoc, ← toList_joinSegments]
        exact skipBlanks?_path hhead rest _
      rw [renaming?_eq hafter]
      by_cases hdollar : head.toList.head? = some '$'
      · obtain ⟨tail, htail⟩ := List.head?_eq_some_iff.mp hdollar
        have hnone : ∀ more, renamingIn? (head.toList ++ more) = none := by
          intro more
          rw [htail]
          rfl
        rw [hnone]
        cases rest with
        | nil => rfl
        | cons declared more =>
            cases more with
            | cons next more => rfl
            | nil => cases alias? <;> simp [Declaration.renaming?, hdollar]
      · have hident : IsIdent head.toList := hhead.isIdent hdollar
        cases rest with
        | nil =>
            have hend := endsPath_aliasText alias?
            have htake := takeIdent?_append hident fun d hd => (hend d hd).1
            simp only [List.flatMap_nil, List.nil_append, renamingIn?, htake, hend.dropPrefix?,
              Option.bind_eq_bind, Option.bind_some, Option.bind_none]
            rfl
        | cons declared more =>
            rw [renamingIn?_cons ⟨head, hident⟩ more (hrest declared (by simp))]
            cases more with
            | cons next more => rfl
            | nil => cases alias? <;> simp [Declaration.renaming?, hdollar]

/-! ## Procedures and constants -/

theorem procedureName?_procedure (form : ProcedureForm) (name : Ident) :
    procedureName? (Declaration.procedure form name).written = some (name.1.toList, []) := by
  have hspace := skipBlanks?_space (name.2.isHead.beginsWord [])
  rw [List.append_nil] at hspace
  have htake := takeIdent?_whole name.2
  cases form with
  | plain =>
      show ((skipBlanks? (' ' :: name.1.toList)).bind takeIdent?).or _ = _
      rw [hspace, Option.bind_some, htake, Option.some_or]
  | published =>
      show ((skipBlanks? (' ' :: name.1.toList)).bind takeIdent?).or _ = _
      rw [hspace, Option.bind_some, htake, Option.some_or]
  | exported => exact htake

theorem exists_cons_of_isConstantName {name : String} (h : isConstantName name = true) :
    ∃ first tail, name.toList = first :: tail ∧ isConstantStart first = true ∧
      ∀ c ∈ tail, isConstantChar c = true := by
  unfold isConstantName at h
  cases hcs : name.toList with
  | nil => simp [hcs] at h
  | cons first tail =>
      simp only [hcs, Bool.and_eq_true, List.all_eq_true] at h
      exact ⟨first, tail, rfl, h⟩

theorem isHeadStart_of_isConstantStart {c : Char} (h : isConstantStart c = true) :
    isHeadStart c = true := by
  have halpha : c.isAlpha = (c.isUpper || c.isLower) := rfl
  simp only [isConstantStart, isHeadStart, isIdentStart, halpha, Bool.or_eq_true] at h ⊢
  rcases h with h | h
  · exact .inl (.inl (.inl h))
  · exact .inl (.inr h)

theorem constantName?_constant (published : Bool) (name : ConstantName) (value : String) :
    (constantName? (Declaration.constant published name value).written).map (·.1) =
      some name.1.toList := by
  obtain ⟨first, tail, hname, hfirst, htail⟩ := exists_cons_of_isConstantName name.2
  have hword : BeginsWord (name.1.toList ++ (" = ".toList ++ value.toList)) := by
    intro c hc
    rw [hname] at hc
    cases hc
    exact isBlank_eq_false_of_isHeadStart (isHeadStart_of_isConstantStart hfirst)
  have hafter : afterKeyword? "const" (afterPublic (skipOptionalBlanks
      (Declaration.constant published name value).written)) =
      some (name.1.toList ++ (" = ".toList ++ value.toList)) := by
    rw [← skipBlanks?_space hword]
    cases published <;> rfl
  have htake : takeRun? isConstantStart isConstantChar
      (name.1.toList ++ (" = ".toList ++ value.toList)) =
      some (name.1.toList, " = ".toList ++ value.toList) := by
    rw [hname]
    exact takeRun?_append hfirst htail (by simp [isConstantChar])
  simp only [constantName?, hafter, htake, Option.bind_eq_bind, Option.bind_some]
  rfl

/-! ## Lines -/

namespace WrittenLine

theorem toList_text (line : WrittenLine) :
    line.text.toList = line.indent ++ line.declaration.written := String.toList_ofList

theorem import?_text (line : WrittenLine) :
    Source.import? line.text.toList = line.declaration.import? := by
  have hindent : Source.import? line.text.toList = Source.import? line.declaration.written := by
    simp only [Source.import?, toList_text, skipOptionalBlanks_append line.isBlank_indent]
  rw [hindent]
  cases line.declaration with
  | use path alias? => exact import?_use path alias?
  | publish moduleName declared exported => rfl
  | procedure form name => cases form <;> rfl
  | constant published name value => cases published <;> rfl
  | other text h => exact h.noImport

theorem renaming?_text (line : WrittenLine) :
    Source.renaming? line.text.toList = line.declaration.renaming? := by
  have hindent : Source.renaming? line.text.toList =
      Source.renaming? line.declaration.written := by
    simp only [Source.renaming?, toList_text, skipOptionalBlanks_append line.isBlank_indent]
  rw [hindent]
  cases line.declaration with
  | use path alias? => exact renaming?_use path alias?
  | publish moduleName declared exported =>
      exact renaming?_publish moduleName declared exported
  | procedure form name => cases form <;> rfl
  | constant published name value => cases published <;> rfl
  | other text h => exact h.noRenaming

theorem procedureName?_text (line : WrittenLine) :
    (procedureName? line.text.toList).map (String.ofList ·.1) = line.declaration.procedure? := by
  have hindent : procedureName? line.text.toList = procedureName? line.declaration.written := by
    simp only [procedureName?, toList_text, skipOptionalBlanks_append line.isBlank_indent]
  rw [hindent]
  cases line.declaration with
  | use path alias? => rfl
  | publish moduleName declared exported => rfl
  | procedure form name => simp [procedureName?_procedure, Declaration.procedure?]
  | constant published name value => cases published <;> rfl
  | other text h =>
      rw [show procedureName? (Declaration.other text h).written = none from h.noProcedure]
      rfl

theorem constantName?_text (line : WrittenLine) :
    (constantName? line.text.toList).map (String.ofList ·.1) = line.declaration.constant? := by
  have hindent : constantName? line.text.toList = constantName? line.declaration.written := by
    simp only [constantName?, toList_text, skipOptionalBlanks_append line.isBlank_indent]
  rw [hindent]
  cases line.declaration with
  | use path alias? => rfl
  | publish moduleName declared exported => rfl
  | procedure form name => cases form <;> rfl
  | constant published name value =>
      have hname := congrArg (Option.map String.ofList)
        (constantName?_constant published name value)
      simpa [Declaration.constant?] using hname
  | other text h =>
      rw [show constantName? (Declaration.other text h).written = none from h.noConstant]
      rfl

theorem importAs?_text (line : WrittenLine) (name : String) :
    importAs? name line.text.toList = line.declaration.pathOf? name := by
  unfold importAs?
  rw [import?_text]
  cases line.declaration with
  | use path alias? =>
      obtain ⟨last, hlast⟩ : ∃ last, path.1.getLast? = some last :=
        ⟨_, List.getLast?_eq_some_getLast path.2.ne_nil⟩
      simp only [Declaration.import?, Declaration.pathOf?, Option.filter_some, Import.lastSegment,
        hlast, Option.getD_some, Bool.or_eq_true, decide_eq_true_eq, Option.some.injEq]
      split <;> rfl
  | _ => rfl

theorem reexportsFrom_text (line : WrittenLine) (moduleName : String) :
    Source.reexportsFrom moduleName line.text.toList =
      line.declaration.reexportsFrom moduleName := by
  unfold Source.reexportsFrom Declaration.reexportsFrom
  rw [renaming?_text]

theorem reexportAs?_text (line : WrittenLine) (name : String) (number : Nat) :
    reexportAs? name line.text.toList number = line.declaration.reexportOf? name number := by
  unfold reexportAs? Declaration.reexportOf?
  rw [renaming?_text]
  cases line.declaration.renaming? with
  | none => rfl
  | some r =>
      simp only [Option.filter_some, decide_eq_true_eq]
      split <;> rfl

end WrittenLine

/-- From the lines in which declarations are written, their summary holds for every name:
the path of the last `use` of that name, or else the name itself if it is the module of a
re-export; what the last re-export of that name says, with its line; and the lines of the
last procedure and of the last constant of that name. -/
theorem Summary.ofLines_written (lines : List WrittenLine) (name : String) :
    let summary := Summary.ofLines (lines.map WrittenLine.text)
    summary.imports.get? name =
        (lastOf (fun line _ => line.declaration.pathOf? name) lines).or
          (if lines.any (·.declaration.reexportsFrom name) then some name else none) ∧
      summary.reexports.get? name =
        lastOf (fun line number => line.declaration.reexportOf? name number) lines ∧
      summary.procedures.get? name = lastOf (fun line number =>
        if line.declaration.procedure? = some name then some number else none) lines ∧
      summary.constants.get? name = lastOf (fun line number =>
        if line.declaration.constant? = some name then some number else none) lines := by
  refine ⟨?_, ?_, ?_, ?_⟩
  · rw [get?_imports_ofLines, lastOf_map, List.any_map]
    simp only [WrittenLine.importAs?_text, WrittenLine.reexportsFrom_text, Function.comp_def]
  · rw [get?_reexports_ofLines, lastOf_map]
    simp only [WrittenLine.reexportAs?_text]
  · rw [get?_procedures_ofLines, lastOf_map]
    simp only [numberIf, WrittenLine.procedureName?_text]
  · rw [get?_constants_ofLines, lastOf_map]
    simp only [numberIf, WrittenLine.constantName?_text]

end AsmNavigator.Source
