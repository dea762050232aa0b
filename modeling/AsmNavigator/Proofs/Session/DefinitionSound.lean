import AsmNavigator.Proofs.Session.ResolvedFile
import AsmNavigator.Proofs.Session.Settled
import AsmNavigator.Proofs.Source.LastDeclaration
import AsmNavigator.Proofs.Source.Words
import Mathlib.Logic.Relation

/-! # Definitions are sound

Whatever place a session gives as the definition of a word, there is a reason for it in
the files as they are on disk: the place is the beginning of a module that an import
expression names, or a line that defines the word, defines a name to which re-exports
lead from the word, or re-exports the word. `Locates` carries this through the
strategies, however they are put together.
-/

namespace AsmNavigator.Session

open Source Workspace

namespace Context

variable (c : Context)

/-- Whether an import expression in a file is resolved to a module, by a new session and
whatever name the module is used under. -/
def Names (file : Path) (expression : String) (target : Path) : Prop :=
  IsExpression expression ∧
    ∀ localName, c.freshResolution file localName expression = .ok (some target)

/-- Whether a module is the file itself or what some import expression names in it. -/
def Sees (file target : Path) : Prop :=
  target = file ∨ ∃ expression, c.Names file expression target

/-- Whether declared re-exports lead from one name to another. -/
def LeadsTo : Symbol → Symbol → Prop :=
  Relation.ReflTransGen fun s t => c.next s = .ok (some t)

/-- The text of the line at a place; there is none if the file is unreadable or too short. -/
def IsLineAt (place : Location) (text : String) : Prop :=
  ∃ lines, Source.read c.world place.file = .found lines ∧ lines[place.line]? = some text

/-- The reasons for which a place can be the definition of a word in a file. -/
inductive Justifies (file : Path) (word : String) (place : Location) : Prop
  | moduleStart {expression : String} (hnames : c.Names file expression place.file)
      (hfile : c.IsFoundAs place.file) (hstart : place.line = 0 ∧ place.column = 0)
  | procedure {start : Path} {name text : String} (hstart : c.Sees file start)
      (hchain : c.LeadsTo (start, word) (place.file, name)) (hline : c.IsLineAt place text)
      (hdefines : isDefinition .procedure name text = true)
  | constant {text : String} (hseen : c.Sees file place.file) (hline : c.IsLineAt place text)
      (hdefines : isDefinition .constant word text = true)
  | reexport {text : String} {r : Renaming} (hseen : c.Sees file place.file)
      (hline : c.IsLineAt place text) (hreexports : renaming? text.toList = some r)
      (hexported : r.exported = word)

end Context

variable {c : Context}

/-! ## What single files hold -/

theorem isLineAt_of_definitionIn {kind : SymbolKind} {file : Path} {name : String}
    {place : Location}
    (h : (definitionIn kind file name (Source.read c.world file)).location? = some place) :
    place.file = file ∧
      ∃ text, c.IsLineAt place text ∧ isDefinition kind name text = true := by
  cases hread : Source.read c.world file with
  | unreadable fault =>
      rw [hread] at h
      cases h
  | found lines =>
      rw [hread] at h
      simp only [definitionIn, firstDefinition?] at h
      cases hindex : lines.findIdx? (isDefinition kind name) with
      | none =>
          rw [hindex] at h
          cases h
      | some number =>
          rw [hindex] at h
          cases h
          obtain ⟨hlength, hdefines, -⟩ := List.findIdx?_eq_some_iff_getElem.mp hindex
          refine ⟨rfl, lines[number], ⟨lines, hread, ?_⟩, hdefines⟩
          exact List.getElem?_eq_getElem hlength

/-- The line that a summary gives for a re-export is there and re-exports the name. -/
theorem isLineAt_of_reexport {file : Path} {name : String} {reexport : Reexport}
    (h : (c.summary file).reexports.get? name = some reexport) (column : Nat) :
    ∃ text r, c.IsLineAt ⟨file, reexport.line, column⟩ text ∧
      renaming? text.toList = some r ∧ r.exported = name := by
  rw [Context.summary, Summary.get?_reexports_ofLines] at h
  obtain ⟨number, text, hline, hreexport, -⟩ := lastOf_eq_some_iff.mp h
  obtain ⟨r, hr, rfl⟩ := Option.map_eq_some_iff.mp hreexport
  obtain ⟨hrenaming, hexported⟩ := Option.filter_eq_some_iff.mp hr
  refine ⟨text, r, ?_, hrenaming, by simpa using hexported⟩
  cases hread : Source.read c.world file with
  | unreadable fault =>
      rw [hread] at hline
      cases hline
  | found lines =>
      rw [hread] at hline
      exact ⟨lines, hread, hline⟩

/-- The search along re-exports ends at a definition to which they lead. -/
theorem leadsTo_of_follow {fuel : Nat} {visited : List Symbol} {s : Symbol} {place : Location}
    (h : c.follow fuel visited s = .ok (some place)) :
    ∃ t, c.LeadsTo s t ∧ c.direct t = some place := by
  induction fuel generalizing visited s with
  | zero => cases h
  | succ fuel ih =>
      by_cases hmet : s ∈ visited
      · rw [follow_of_mem hmet] at h
        cases h
      rw [follow_succ hmet] at h
      have hhere : c.direct s = some place → ∃ t, c.LeadsTo s t ∧ c.direct t = some place :=
        fun hs => ⟨s, .refl, hs⟩
      rcases hnext : c.next s with fault | _ | t
      · simp [hnext] at h
      · rw [hnext] at h
        exact hhere (Except.ok.inj h)
      · rw [hnext] at h
        rcases hrest : c.follow fuel (s :: visited) t with fault | found?
        · simp [hrest, Except.map] at h
        · simp only [hrest, Except.map, Except.ok.injEq] at h
          rcases Option.or_eq_some_iff.mp h with h | ⟨-, h⟩
          · rcases Option.or_eq_some_iff.mp h with rfl | ⟨-, h⟩
            · obtain ⟨u, hchain, hu⟩ := ih hrest
              exact ⟨u, .head hnext hchain, hu⟩
            · exact ⟨t, .single hnext, h⟩
          · exact hhere h

/-! ## Searches whose results are justified -/

/-- On caches that agree with the context, whatever a query finds satisfies `P`. -/
def Locates (c : Context) (q : Query (Option β)) (P : β → Prop) : Prop :=
  ∃ a, Answers c (fun _ => True) q a ∧ Gives P a

namespace Locates

variable {α β : Type} {P : β → Prop}

theorem nothing : Locates c (pure none) P := ⟨_, .pure none, Gives.nothing⟩

theorem found {b : β} (h : P b) : Locates c (pure (some b)) P :=
  ⟨_, .pure (some b), Gives.found h⟩

/-- The rest of a search may use the answer of its first part. -/
theorem bind {x : Query α} {f : α → Query (Option β)} {a : Except Fault α}
    (hx : Answers c (fun _ => True) x a) (hf : ∀ v, a = .ok v → Locates c (f v) P) :
    Locates c (x >>= f) P := by
  cases a with
  | error fault => exact ⟨_, hx.bind_error, fun b h => nomatch h⟩
  | ok v =>
      obtain ⟨b, hb, hP⟩ := hf v rfl
      exact ⟨b, hx.bind_ok hb, hP⟩

theorem orElse {first second : Query (Option β)} (hfirst : Locates c first P)
    (hsecond : Locates c second P) : Locates c (Query.orElse first second) P := by
  obtain ⟨a, ha, haP⟩ := hfirst
  obtain ⟨b, hb, hbP⟩ := hsecond
  exact ⟨_, ha.orElse hb, haP.orElse hbP⟩

theorem firstHit {search : α → Query (Option β)} (h : ∀ a, Locates c (search a) P)
    (items : List α) : Locates c (Query.firstHit search items) P := by
  choose g hg hgP using h
  exact ⟨_, .firstHit hg items, Gives.firstHit hgP items⟩

end Locates

theorem answers_resolve (file : Path) (localName expression : String) :
    Answers c (fun _ => True) (Query.resolve file localName expression)
      (c.resolution file expression) :=
  .resolve (fun _ _ => True.intro) True.intro localName expression

theorem names_of_resolution {file target : Path} {expression : String}
    (hexpression : IsExpression expression)
    (h : c.resolution file expression = .ok (some target)) : c.Names file expression target :=
  ⟨hexpression, fun localName => (freshResolution_eq file localName expression).trans h⟩

theorem answers_summaryOf (file : Path) :
    Answers c (fun _ => True) (Query.summaryOf file) (.ok (c.summary file)) :=
  .summaryOf True.intro

namespace Locates

variable {file target : Path} {word : String}

theorem scan {kind : SymbolKind} {P : Location → Prop}
    (h : ∀ {place text}, place.file = target → c.IsLineAt place text →
      isDefinition kind word text = true → P place) :
    Gives P (.ok (definitionIn kind target word (Source.read c.world target)).location?) := by
  intro place hplace
  obtain ⟨hfile, text, hline, hdefines⟩ := isLineAt_of_definitionIn (Except.ok.inj hplace)
  exact h hfile hline hdefines

theorem findProcedure (hseen : c.Sees file target) :
    Locates c (Query.findProcedure? target word) (c.Justifies file word) := by
  unfold Query.findProcedure? Query.locateProcedure
  rw [bind_assoc]
  refine bind (Answers.scan .procedure target word) fun lookup hlookup => ?_
  have hdefined : Gives (c.Justifies file word) (.ok lookup.location?) := by
    rw [← Except.ok.inj hlookup]
    refine scan fun hfile hline hdefines => ?_
    subst hfile
    exact .procedure hseen .refl hline hdefines
  cases lookup with
  | unreadable => exact nothing
  | found place => exact found (hdefined place rfl)
  | notFound =>
      simp only [bind_assoc]
      refine bind (answers_summaryOf target) fun summary hsummary => ?_
      obtain rfl := Except.ok.inj hsummary
      cases hget : (c.summary target).reexports.get? word with
      | none => exact nothing
      | some reexport =>
          simp only [bind_assoc]
          refine bind (Answers.readSource target) fun result _ => found ?_
          obtain ⟨text, r, hline, hrenaming, hexported⟩ := isLineAt_of_reexport hget _
          exact .reexport hseen hline hrenaming hexported

theorem findConstant (hseen : c.Sees file target) :
    Locates c (Query.findConstant? target word) (c.Justifies file word) := by
  refine ⟨_, (Answers.scan .constant target word).bind_ok (.pure _), ?_⟩
  refine scan fun hfile hline hdefines => ?_
  subst hfile
  exact .constant hseen hline hdefines

theorem findSource (hseen : c.Sees file target) :
    Locates c (Query.findSource? target word) (c.Justifies file word) := by
  refine ⟨c.source (target, word), ?_, ?_⟩
  · exact Answers.findSource (K := fun _ => True) (fun _ _ => True.intro)
      (fun _ _ => True.intro) (s := (target, word)) True.intro
  · intro place hplace
    rw [Context.source] at hplace
    obtain ⟨⟨last, name⟩, hchain, hdirect⟩ := leadsTo_of_follow hplace
    obtain ⟨hfile, text, hline, hdefines⟩ := isLineAt_of_definitionIn hdirect
    subst hfile
    exact .procedure hseen hchain hline hdefines

/-! ## The strategies -/

theorem importedModule {i : Import} (hsegments : AreSegments i.segments) :
    Locates c (Query.importedModule? file i) (c.Justifies file word) := by
  refine bind (answers_resolve file _ _) fun target? htarget => ?_
  cases target? with
  | none => exact nothing
  | some target =>
      have hnames := names_of_resolution ⟨_, hsegments, rfl⟩ htarget
      refine found (.moduleStart hnames ?_ ⟨rfl, rfl⟩)
      exact Context.gives_resolution file _ target htarget

theorem importedConstant {i : Import} (hsegments : AreSegments i.segments)
    (hlength : 2 ≤ i.segments.length) :
    Locates c (Query.importedConstant? file i word) (c.Justifies file word) := by
  have hmodule : AreSegments i.segments.dropLast := by
    generalize i.segments = segments at hsegments hlength
    cases hsegments with
    | @cons head rest hhead hrest =>
        cases rest with
        | nil => simp at hlength
        | cons second rest =>
            exact .cons hhead fun segment hmem =>
              hrest segment ((List.dropLast_sublist _).subset hmem)
  refine bind (answers_resolve file _ _) fun target? htarget => ?_
  cases target? with
  | none => exact nothing
  | some target =>
      exact findConstant (.inr ⟨_, names_of_resolution ⟨_, hmodule, rfl⟩ htarget⟩)

theorem fromImport (site : Site) :
    Locates c (Query.fromImport site) (c.Justifies site.file site.word.text) := by
  unfold Query.fromImport
  cases himport : import? site.line.toList with
  | none => exact nothing
  | some i =>
      have hsegments := areSegments_of_import? himport
      refine orElse ?_ ?_
      · split
        · exact importedModule hsegments
        · exact nothing
      · split
        · exact nothing
        · refine orElse ?_ (importedModule hsegments)
          split
          · next hconstant =>
              refine importedConstant hsegments ?_
              simp only [namesConstant, Bool.and_eq_true, decide_eq_true_eq] at hconstant
              exact hconstant.2
          · exact nothing

theorem isExpression_of_import {entry : String × String}
    (h : entry ∈ (c.summary file).imports.entries) : IsExpression entry.2 := by
  unfold Context.summary at h
  exact (Summary.wellShaped_ofLines _).imports entry h

theorem isExpression_of_call {line : String} {w : Word} {call : QualifiedCall}
    (hcall : callOfWord? line w = some call) (file : Path) :
    IsExpression (c.expressionFor file call.moduleName) := by
  unfold Context.expressionFor
  cases hget : (c.summary file).imports.get? call.moduleName with
  | none => exact (isIdent_of_callOfWord? hcall).isExpression
  | some expression => exact isExpression_of_import (OrderedMap.mem_of_get? hget)

theorem fromQualifiedCall {site : Site} (hword : IsToken site.line.toList site.word)
    (hsummary : site.summary = c.summary site.file) :
    Locates c (Query.fromQualifiedCall site) (c.Justifies site.file site.word.text) := by
  unfold Query.fromQualifiedCall Query.moduleNamed?
  cases hcall : callOfWord? site.line site.word with
  | none => exact nothing
  | some call =>
      rw [hsummary]
      refine bind (answers_resolve site.file _ _) fun target? htarget => ?_
      cases target? with
      | none => exact nothing
      | some target =>
          have hnames := names_of_resolution (isExpression_of_call hcall site.file) htarget
          simp only
          split
          · refine found (.moduleStart hnames ?_ ⟨rfl, rfl⟩)
            exact Context.gives_resolution site.file _ target htarget
          · next hmodule =>
              have hseen : c.Sees site.file target := .inr ⟨_, hnames⟩
              rw [procedure_eq_of_callOfWord? hword hcall hmodule]
              exact orElse (findSource hseen) (findProcedure hseen)

theorem firstInImported {search : Path → Query (Option β)} {P : β → Prop}
    (hsearch : ∀ {target}, c.Sees file target → Locates c (search target) P)
    (seen : List Path) {imports : List (String × String)}
    (himports : ∀ entry ∈ imports, IsExpression entry.2) :
    Locates c (Query.firstInImported search file seen imports) P := by
  induction imports generalizing seen with
  | nil => exact nothing
  | cons entry rest ih =>
      obtain ⟨name, expression⟩ := entry
      have hrest : ∀ entry ∈ rest, IsExpression entry.2 :=
        fun entry hmem => himports entry (List.mem_cons_of_mem _ hmem)
      unfold Query.firstInImported
      refine bind (answers_resolve file _ _) fun target? htarget => ?_
      cases target? with
      | none => exact ih seen hrest
      | some target =>
          have hseen : c.Sees file target :=
            .inr ⟨expression, names_of_resolution (himports (name, expression) (by simp)) htarget⟩
          simp only
          split
          · exact ih seen hrest
          · exact orElse (hsearch hseen) (ih (target :: seen) hrest)

theorem inImportedModules {site : Site} (hsummary : site.summary = c.summary site.file) :
    Locates c (Query.inImportedModules? site word) (c.Justifies site.file word) := by
  unfold Query.inImportedModules?
  rw [hsummary]
  exact firstInImported findProcedure [] fun _ => isExpression_of_import

theorem fromLocalCall {site : Site} (hword : IsToken site.line.toList site.word)
    (hsummary : site.summary = c.summary site.file) :
    Locates c (Query.fromLocalCall site) (c.Justifies site.file site.word.text) := by
  unfold Query.fromLocalCall
  cases hcall : localCall? site.line site.word with
  | none => exact nothing
  | some procedure =>
      rw [eq_of_localCall? hword hcall]
      exact orElse (findProcedure (.inl rfl)) (inImportedModules hsummary)

theorem byStrategy {site : Site} (hword : IsToken site.line.toList site.word)
    (hsummary : site.summary = c.summary site.file) (strategy : Strategy) :
    Locates c (Query.byStrategy site strategy) (c.Justifies site.file site.word.text) := by
  unfold Query.byStrategy
  cases strategy with
  | fromImport => exact fromImport site
  | fromQualifiedCall => exact fromQualifiedCall hword hsummary
  | fromLocalCall => exact fromLocalCall hword hsummary
  | fromLocalDefinition => exact findProcedure (.inl rfl)
  | fromImportedModules => exact inImportedModules hsummary

theorem tryStrategies {site : Site} (hword : IsToken site.line.toList site.word)
    (hsummary : site.summary = c.summary site.file) (strategies : List Strategy) :
    Locates c (Query.tryStrategies site strategies)
      (c.Justifies site.file site.word.text) := by
  refine firstHit (fun strategy => ?_) strategies
  obtain ⟨a, hanswer, hjustified⟩ := byStrategy hword hsummary strategy
  refine bind hanswer fun place? hplace => ?_
  cases place? with
  | none => exact nothing
  | some place =>
      exact bind (Answers.debug _ _) fun _ _ => found (hjustified place hplace)

end Locates

/-! ## Definitions -/

/-- Every place that a definition query gives is justified for the word at the column. -/
theorem definition_justified {c : Context} {state : State}
    (hagree : state.caches.Agree c fun _ => True) {path : Path} {line : String} {column : Int}
    {place : Location}
    (h : ((Query.definition path line column).run c state).1 = .ok (some place)) :
    ∃ w, wordAt line column = some w ∧ c.Justifies (c.world.absolute path) w.text place := by
  have hlocates : Locates c (Query.definition path line column) fun place =>
      ∃ w, wordAt line column = some w ∧ c.Justifies (c.world.absolute path) w.text place := by
    refine Locates.bind Answers.read fun context hcontext => ?_
    obtain rfl := Except.ok.inj hcontext
    simp only
    cases hword : navigableWord? line column with
    | none => exact Locates.nothing
    | some w =>
        have hword : wordAt line column = some w := (Option.filter_eq_some_iff.mp hword).1
        refine Locates.bind (answers_summaryOf _) fun summary hsummary => ?_
        let site : Site := ⟨c.world.absolute path, line, w, summary⟩
        have hsite : site.summary = c.summary site.file := (Except.ok.inj hsummary).symm
        have htoken : IsToken site.line.toList site.word := isToken_of_wordAt hword
        obtain ⟨a, hanswer, hjustified⟩ := Locates.tryStrategies htoken hsite Strategy.all
        exact ⟨a, hanswer, fun place hplace => ⟨w, hword, hjustified place hplace⟩⟩
  obtain ⟨a, hanswer, hjustified⟩ := hlocates
  rw [(hanswer state hagree).1] at h
  exact hjustified place h

/-- A call of the name that one file of the cycle re-exports under another one. -/
theorem definition_cyclicReexports_justified :
    State.start.caches.Agree cyclicReexports (fun _ => True) ∧
      ((Query.definition ⟨.slash, ["main.masm"]⟩ "exec.a::p" 8).run cyclicReexports .start).1 =
        .ok (some ⟨⟨.slash, ["b.masm"]⟩, 1, 5⟩) ∧
      ∃ w, wordAt "exec.a::p" 8 = some w ∧ cyclicReexports.Justifies
        (cyclicReexports.world.absolute ⟨.slash, ["main.masm"]⟩) w.text
        ⟨⟨.slash, ["b.masm"]⟩, 1, 5⟩ := by
  have hagree : State.start.caches.Agree cyclicReexports (fun _ => True) := Caches.agree_empty _ _
  have hanswer :
      ((Query.definition ⟨.slash, ["main.masm"]⟩ "exec.a::p" 8).run cyclicReexports .start).1 =
        .ok (some ⟨⟨.slash, ["b.masm"]⟩, 1, 5⟩) := by
    decide +kernel
  exact ⟨hagree, hanswer, definition_justified hagree hanswer⟩

/-- A crate whose library is a symbolic link, with a namespace in a directory beside the one
to which the link leads. -/
def linkedLibrary : Context where
  world :=
    { tree := ⟨⟨[(["w"], .directory), (["w", "Cargo.toml"], .file "[workspace]".toUTF8),
        (["w", "crates"], .directory), (["w", "crates", "k"], .directory),
        (["w", "crates", "k", "build.rs"], .file
          "const K_LIB_NAMESPACE: &str = \"miden::n\"; const ASM_K_DIR: &str = \"../x\";".toUTF8),
        (["w", "crates", "k", "asm"], .link ["v", "asm"]),
        (["v"], .directory), (["v", "asm"], .directory), (["v", "x"], .directory),
        (["v", "x", "m.masm"], .file .empty)]⟩⟩
      env := ⟨.empty, ⟨.slash, []⟩, [], 0⟩ }
  settings := {}
  registryRoot? := none

/-- The module is found beside the directory behind the link, and the beginning of a file
beside the link itself is given, where there is none. -/
theorem definition_linkedLibrary :
    let target : Path := ⟨.slash, ["w", "crates", "k", "x", "m.masm"]⟩
    State.start.caches.Agree linkedLibrary (fun _ => True) ∧
      ((Query.definition ⟨.slash, ["w", "f.masm"]⟩ "use miden::n::m" 14).run linkedLibrary
        .start).1 = .ok (some ⟨target, 0, 0⟩) ∧
      linkedLibrary.world.isFile target = .ok false ∧
      ∀ lines, Source.read linkedLibrary.world target ≠ .found lines := by
  intro target
  refine ⟨Caches.agree_empty _ _, by decide +kernel, by decide +kernel, ?_⟩
  intro lines hread
  have hfault : Source.read linkedLibrary.world target =
      .unreadable (.os .notFound target.toString) := by
    decide +kernel
  rw [hfault] at hread
  cases hread

end AsmNavigator.Session
