import AsmNavigator.Proofs.Session.ReexportWalk

/-! # Queries about the files of a set

Which files a query summarises and resolves imports for is decided by what it has been
told before. `Confines` says when all of them stay inside a set of paths. A judgment on
queries and their answers that is kept when queries follow one another, and that holds of
summaries and resolutions for files of the set, then holds of every query that starts in it.
-/

namespace AsmNavigator.Session

open Source Workspace

/-- Summaries are taken of paths in `K` only, as long as every expression in `E` leads from
`K` to `K` and sources hold no other expressions. -/
structure Confines (c : Context) (K : Path → Prop) (E : String → Prop) : Prop where
  parent : ∀ p, K p → K p.parent
  resolution : ∀ {file expression target}, K file → E expression →
    c.resolution file expression = .ok (some target) → K target
  imports : ∀ {file name expression},
    (name, expression) ∈ (c.summary file).imports.entries → E expression
  reexports : ∀ {file name reexport},
    (c.summary file).reexports.get? name = some reexport → E reexport.moduleName
  calls : ∀ {line word call}, callOfWord? line word = some call → E call.moduleName

namespace Confines

variable {c : Context} {K : Path → Prop} {E : String → Prop}

/-- Without bounds on paths and expressions there is nothing to keep. -/
theorem trivial (c : Context) : Confines c (fun _ => True) (fun _ => True) := by
  constructor <;> intros <;> exact True.intro

theorem expressionFor (h : Confines c K E) {name : String} (hname : E name) (file : Path) :
    E (c.expressionFor file name) := by
  unfold Context.expressionFor
  cases hget : (c.summary file).imports.get? name with
  | none => exact hname
  | some expression => exact h.imports (OrderedMap.mem_of_get? hget)

theorem next (h : Confines c K E) {s t : Symbol} (hs : K s.1) (ht : c.next s = .ok (some t)) :
    K t.1 := by
  obtain ⟨reexport, hget⟩ := reexport_of_next ht
  rw [next_of_reexport hget] at ht
  rcases hresolved : c.resolution s.1 (c.expressionFor s.1 reexport.moduleName) with
    fault | _ | target
  · simp [hresolved, Except.map] at ht
  · simp [hresolved, Except.map] at ht
  · simp only [hresolved, Except.map, Option.map_some] at ht
    cases ht
    exact h.resolution hs (h.expressionFor (h.reexports hget) s.1) hresolved

end Confines

/-! ## Judgments -/

/-- A judgment on queries and what their answers satisfy, in a context. It is kept by
sequences, and holds of summaries and resolutions for files in `K`. -/
structure GuardedSteps (c : Context) (K : Path → Prop)
    (J : ∀ {α : Type}, Query α → (α → Prop) → Prop) : Prop where
  pure : ∀ {α : Type} {P : α → Prop} {a : α}, P a → J (Pure.pure a : Query α) P
  bind : ∀ {α β : Type} {P : α → Prop} {Q : β → Prop} {x : Query α} {f : α → Query β},
    J x P → (∀ a, P a → J (f a) Q) → J (x >>= f) Q
  read : J (MonadReader.read : Query Context) (· = c)
  ofExcept : ∀ {α : Type} (outcome : Except Fault α), J (Query.ofExcept outcome) fun _ => True
  debug : ∀ name fields, J (Query.debug name fields) fun _ => True
  summaryOf : ∀ {file}, K file → J (Query.summaryOf file) (· = c.summary file)
  resolve : ∀ {file}, K file → ∀ localName expression,
    J (Query.resolve file localName expression) (c.resolution file expression = .ok ·)

structure Guarded (c : Context) (K : Path → Prop)
    (J : ∀ {α : Type}, Query α → (α → Prop) → Prop) : Prop extends GuardedSteps c K J where
  findSource : ∀ {file}, K file → ∀ name, J (Query.findSource? file name) fun _ => True

variable {c : Context} {K : Path → Prop} {E : String → Prop}
  {J : ∀ {α : Type}, Query α → (α → Prop) → Prop} {α β : Type}

namespace GuardedSteps

section

variable (h : GuardedSteps c K J)
include h

theorem answered (a : α) : J (Pure.pure a : Query α) fun _ => True := h.pure trivial

theorem andThen {x : Query α} {f : α → Query β} {Q : β → Prop} (hx : J x fun _ => True)
    (hf : ∀ a, J (f a) Q) : J (x >>= f) Q := h.bind hx fun a _ => hf a

theorem forget {q : Query α} {P : α → Prop} (hq : J q P) : J q fun _ => True := by
  have hdone := h.bind hq fun a _ => h.answered a
  rwa [bind_pure] at hdone

theorem bind_option {x : Query (Option α)} {f : Option α → Query (Option β)}
    {P : Option α → Prop} (hx : J x P) (hnone : J (f none) fun _ => True)
    (hsome : ∀ a, P (some a) → J (f (some a)) fun _ => True) : J (x >>= f) fun _ => True := by
  refine h.bind hx fun found? hfound => ?_
  cases found? with
  | none => exact hnone
  | some a => exact hsome a hfound

theorem orElse {first second : Query (Option β)} (hfirst : J first fun _ => True)
    (hsecond : J second fun _ => True) : J (Query.orElse first second) fun _ => True :=
  h.bind_option hfirst hsecond fun _ _ => h.answered _

theorem firstHit {search : α → Query (Option β)} (hsearch : ∀ a, J (search a) fun _ => True)
    (items : List α) : J (Query.firstHit search items) fun _ => True := by
  induction items with
  | nil => exact h.answered none
  | cons a rest ih => exact h.bind_option (hsearch a) ih fun _ _ => h.answered _

theorem readSource (file : Path) : J (Query.readSource file) fun _ => True := by
  refine h.bind h.read fun context _ => ?_
  simp only
  cases Source.read context.world file with
  | found lines => exact h.answered _
  | unreadable fault => exact h.andThen (h.debug _ _) fun _ => h.answered _

theorem scan (kind : SymbolKind) (file : Path) (name : String) :
    J (Query.scan kind file name) fun _ => True :=
  h.andThen (h.readSource file) fun _ => h.answered _

/-! ## Names in files -/

theorem locateProcedure {file : Path} (hk : K file) (name : String) :
    J (Query.locateProcedure file name) fun _ => True := by
  refine h.andThen (h.scan .procedure file name) fun lookup => ?_
  cases lookup with
  | found location => exact h.answered _
  | unreadable => exact h.answered _
  | notFound =>
      refine h.bind (h.summaryOf hk) fun summary _ => ?_
      cases summary.reexports.get? name with
      | none => exact h.answered _
      | some reexport => exact h.andThen (h.readSource file) fun _ => h.answered _

theorem findProcedure {file : Path} (hk : K file) (name : String) :
    J (Query.findProcedure? file name) fun _ => True :=
  h.andThen (h.locateProcedure hk name) fun _ => h.answered _

theorem findConstant (file : Path) (name : String) :
    J (Query.findConstant? file name) fun _ => True :=
  h.andThen (h.scan .constant file name) fun _ => h.answered _

/-! ## Modules that are imported -/

theorem importedModule {file : Path} (hk : K file) (i : Import) :
    J (Query.importedModule? file i) fun _ => True :=
  h.bind (h.resolve hk _ _) fun _ _ => h.answered _

theorem importedConstant {file : Path} (hk : K file) (i : Import) (word : String) :
    J (Query.importedConstant? file i word) fun _ => True :=
  h.bind_option (h.resolve hk _ _) (h.answered none) fun target _ => h.findConstant target word

theorem fromImport {site : Site} (hk : K site.file) :
    J (Query.fromImport site) fun _ => True := by
  unfold Query.fromImport
  cases import? site.line.toList with
  | none => exact h.answered none
  | some i =>
      refine h.orElse ?_ ?_
      · split
        · exact h.importedModule hk i
        · exact h.answered none
      · split
        · exact h.answered none
        · refine h.orElse ?_ (h.importedModule hk i)
          split
          · exact h.importedConstant hk i site.word.text
          · exact h.answered none

theorem resolveImport {path : Path} (hk : K (c.world.absolute path)) (expression : String) :
    J (Query.resolveImport path expression)
      (c.resolution (c.world.absolute path) expression = .ok ·) := by
  refine h.bind h.read ?_
  rintro context rfl
  exact h.resolve hk _ expression

end

variable (h : GuardedSteps c K J) (hconfines : Confines c K E)
include h hconfines

theorem firstInImported {search : Path → Query (Option β)}
    (hsearch : ∀ {target}, K target → J (search target) fun _ => True) {file : Path}
    (hk : K file) (seen : List Path) {imports : List (String × String)}
    (himports : ∀ {name expression}, (name, expression) ∈ imports → E expression) :
    J (Query.firstInImported search file seen imports) fun _ => True := by
  induction imports generalizing seen with
  | nil => exact h.answered none
  | cons entry rest ih =>
      obtain ⟨name, expression⟩ := entry
      have hrest := fun seen => ih seen fun hmem => himports (List.mem_cons_of_mem _ hmem)
      refine h.bind_option (h.resolve hk _ _) (hrest seen) fun target htarget => ?_
      have htargetK : K target := hconfines.resolution hk (himports List.mem_cons_self) htarget
      simp only
      split
      · exact hrest seen
      · exact h.orElse (hsearch htargetK) (hrest (target :: seen))

/-- Walks along re-exports stay in `K`. -/
theorem followFrom (fuel : Nat) (visited : List (Path × String)) {file : Path} (hk : K file)
    (name : String) : J (Query.followFrom fuel visited file name) fun _ => True := by
  induction fuel generalizing visited file name with
  | zero => exact h.answered none
  | succ fuel ih =>
      have hscan : ∀ file name, J (do
          return (← Query.scan .procedure file name).location?) fun _ => True :=
        fun file name => h.andThen (h.scan _ _ _) fun _ => h.answered _
      unfold Query.followFrom
      split
      · exact h.andThen (h.debug _ _) fun _ => h.answered none
      · refine h.bind (h.summaryOf hk) fun summary hsummary => ?_
        simp only [hsummary]
        cases hget : (c.summary file).reexports.get? name with
        | none => exact h.bind_option (h.answered none) (hscan file name) fun _ _ => h.answered _
        | some reexport =>
            refine h.bind_option (h.resolve hk _ _) ?_ fun target htarget => ?_
            · exact h.bind_option (h.answered none) (hscan file name) fun _ _ => h.answered _
            · have htargetK : K target :=
                hconfines.resolution hk (hconfines.expressionFor (hconfines.reexports hget) file)
                  htarget
              have honward := h.orElse (ih ((file, name) :: visited) htargetK reexport.declared)
                (hscan target reexport.declared)
              exact h.bind_option honward (hscan file name) fun _ _ => h.answered _

/-- A judgment that holds of a look into the caches holds of walks. -/
theorem guarded (hcaches : J Query.caches fun _ => True) : Guarded c K J where
  toGuardedSteps := h
  findSource {file} hk name := by
    have hbound : J Query.walkBound fun _ => True :=
      h.andThen (h.bind h.read fun _ _ => h.answered _) fun _ =>
        h.andThen hcaches fun _ => h.answered _
    exact h.andThen hbound fun fuel => h.followFrom hconfines fuel [] hk name

end GuardedSteps

/-- A site whose summary is that of its file. -/
structure IsSite (c : Context) (K : Path → Prop) (site : Site) : Prop where
  file : K site.file
  summary : site.summary = c.summary site.file

namespace Guarded

theorem documentation (h : Guarded c K J) {target : Path} (hk : K target)
    (procedure : String) : J (Query.documentation? target procedure) fun _ => True := by
  refine h.andThen (h.readSource target) fun result => ?_
  simp only
  cases firstDefinition? .procedure procedure result.lines with
  | some found => exact h.andThen (h.ofExcept _) fun _ => h.answered _
  | none =>
      refine h.bind_option (h.findSource hk procedure) (h.answered none) fun location _ => ?_
      refine h.andThen (h.readSource location.file) fun result => ?_
      exact h.andThen (h.ofExcept _) fun _ => h.answered _

variable (h : Guarded c K J) (hconfines : Confines c K E)
include h hconfines

/-! ## Definitions -/

/-! ## Definitions -/

theorem fromQualifiedCall {site : Site} (hsite : IsSite c K site) :
    J (Query.fromQualifiedCall site) fun _ => True := by
  unfold Query.fromQualifiedCall Query.moduleNamed?
  cases hcall : callOfWord? site.line site.word with
  | none => exact h.answered none
  | some call =>
      rw [hsite.summary]
      refine h.bind_option (h.resolve hsite.file _ _) (h.answered none) fun target htarget => ?_
      have hk : K target := hconfines.resolution hsite.file
        (hconfines.expressionFor (hconfines.calls hcall) site.file) htarget
      simp only
      split
      · exact h.answered _
      · exact h.orElse (h.findSource hk _) (h.findProcedure hk _)

theorem inImportedModules {site : Site} (hsite : IsSite c K site) (procedure : String) :
    J (Query.inImportedModules? site procedure) fun _ => True := by
  unfold Query.inImportedModules?
  rw [hsite.summary]
  exact h.firstInImported hconfines (fun hk => h.findProcedure hk procedure) hsite.file []
    hconfines.imports

theorem fromLocalCall {site : Site} (hsite : IsSite c K site) :
    J (Query.fromLocalCall site) fun _ => True := by
  unfold Query.fromLocalCall
  cases localCall? site.line site.word with
  | none => exact h.answered none
  | some procedure =>
      exact h.orElse (h.findProcedure hsite.file _) (h.inImportedModules hconfines hsite _)

theorem byStrategy {site : Site} (hsite : IsSite c K site) (strategy : Strategy) :
    J (Query.byStrategy site strategy) fun _ => True := by
  unfold Query.byStrategy
  cases strategy with
  | fromImport => exact h.fromImport hsite.file
  | fromQualifiedCall => exact h.fromQualifiedCall hconfines hsite
  | fromLocalCall => exact h.fromLocalCall hconfines hsite
  | fromLocalDefinition => exact h.findProcedure hsite.file _
  | fromImportedModules => exact h.inImportedModules hconfines hsite _

theorem tryStrategies {site : Site} (hsite : IsSite c K site) (strategies : List Strategy) :
    J (Query.tryStrategies site strategies) fun _ => True := by
  refine h.firstHit (fun strategy => ?_) strategies
  refine h.bind_option (h.byStrategy hconfines hsite strategy) (h.answered none) fun _ _ => ?_
  exact h.andThen (h.debug _ _) fun _ => h.answered _

theorem definition {path : Path} (hk : K (c.world.absolute path)) (line : String)
    (column : Int) : J (Query.definition path line column) fun _ => True := by
  refine h.bind h.read ?_
  rintro context rfl
  simp only
  cases navigableWord? line column with
  | none => exact h.answered none
  | some word =>
      refine h.bind (h.summaryOf hk) fun summary hsummary => ?_
      have hsite : IsSite context K ⟨context.world.absolute path, line, word, summary⟩ :=
        ⟨hk, hsummary⟩
      exact h.tryStrategies hconfines hsite Strategy.all

theorem hover {path : Path} (hk : K (c.world.absolute path)) (line : String) (column : Int) :
    J (Query.hover path line column) fun _ => True := by
  refine h.bind h.read ?_
  rintro context rfl
  simp only
  cases navigableWord? line column with
  | none => exact h.answered none
  | some word =>
      simp only
      cases hcall : callOfWord? line word with
      | none => exact h.answered none
      | some call =>
          simp only
          split
          · exact h.answered none
          · refine h.bind (h.summaryOf hk) fun summary hsummary => ?_
            rw [hsummary]
            refine h.bind_option (h.resolve hk _ _) (h.answered none) fun target htarget => ?_
            exact h.documentation (hconfines.resolution hk
              (hconfines.expressionFor (hconfines.calls hcall) _) htarget) call.procedure

end Guarded

end AsmNavigator.Session
