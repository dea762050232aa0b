import AsmNavigator.Session.Navigate

/-! # Properties of all queries

Every query of a session is put together from a few of them. A property that these have
and that is kept when queries follow one another is a property of every query.
-/

namespace AsmNavigator.Session

open Config Source Workspace

/-- Holds of the steps that touch no cache, and of a query if it holds of its parts. -/
structure Compositional (J : ∀ {α : Type}, Query α → Prop) : Prop where
  pure : ∀ {α : Type} (a : α), J (Pure.pure a : Query α)
  read : J (MonadReader.read : Query Context)
  debug : ∀ name fields, J (Query.debug name fields)
  bind : ∀ {α β : Type} {x : Query α} {f : α → Query β}, J x → (∀ a, J (f a)) → J (x >>= f)

namespace Compositional

variable {J : ∀ {α : Type}, Query α → Prop} {α β : Type} (h : Compositional J)
include h

theorem bind_option {x : Query (Option α)} {f : Option α → Query β} (hx : J x)
    (hnone : J (f none)) (hsome : ∀ a, J (f (some a))) : J (x >>= f) := by
  refine h.bind hx fun found? => ?_
  cases found? with
  | none => exact hnone
  | some a => exact hsome a

theorem map {x : Query α} (hx : J x) (f : α → β) : J (do return f (← x)) :=
  h.bind hx fun _ => h.pure _

theorem orElse {first second : Query (Option β)} (hfirst : J first) (hsecond : J second) :
    J (Query.orElse first second) :=
  h.bind_option hfirst hsecond fun _ => h.pure _

theorem firstHit {search : α → Query (Option β)} (hsearch : ∀ a, J (search a))
    (items : List α) : J (Query.firstHit search items) := by
  induction items with
  | nil => exact h.pure _
  | cons a rest ih => exact h.bind_option (hsearch a) ih fun _ => h.pure _

theorem layout : J Query.layout := h.map h.read _

theorem readSource (file : Path) : J (Query.readSource file) := by
  refine h.bind h.read fun context => ?_
  simp only
  cases Source.read context.world file with
  | found lines => exact h.pure _
  | unreadable fault => exact h.bind (h.debug _ _) fun _ => h.pure _

theorem scan (kind : SymbolKind) (file : Path) (name : String) :
    J (Query.scan kind file name) := h.map (h.readSource file) _

end Compositional

/-! ## The rules for imports -/

/-- Holds of every query that the rules for imports are made of. -/
structure OfRules (J : ∀ {α : Type}, Query α → Prop) : Prop extends Compositional J where
  ofExcept : ∀ {α : Type} (outcome : Except Fault α), J (Query.ofExcept outcome)
  namespaceTable : ∀ root, J (Query.namespaceTable root)

namespace OfRules

variable {J : ∀ {α : Type}, Query α → Prop} (h : OfRules J)
include h

theorem workspaceRoot (manifestName : String) (depth : Nat) (file : Path) :
    J (Query.workspaceRoot? manifestName depth file) := by
  refine h.bind h.read fun context => h.bind (h.ofExcept _) fun root? => ?_
  cases root? with
  | none => exact h.bind (h.debug _ _) fun _ => h.pure _
  | some root => exact h.pure _

theorem registryModule (package subPath : String) :
    J (Query.registryModule? package subPath) := by
  refine h.bind h.read fun context => h.bind (h.ofExcept _) fun outcome => ?_
  cases outcome with
  | noRegistry sources => exact h.bind (h.debug _ _) fun _ => h.pure _
  | hit version path => exact h.bind (h.debug _ _) fun _ => h.pure _
  | miss => exact h.pure _

theorem moduleBelow (base : Path) (subPath : String) : J (Query.moduleBelow? base subPath) :=
  h.bind h.read fun _ => h.ofExcept _

theorem subdirectories (p : Path) : J (Query.subdirectories p) :=
  h.bind h.read fun _ => h.ofExcept _

theorem moduleInSubdirectories (library : Path) (subPath : String) :
    J (Query.moduleInSubdirectories? library subPath) := by
  refine h.bind (h.subdirectories library) fun directories => ?_
  exact h.firstHit (fun base => h.moduleBelow base subPath) directories

theorem moduleInWorkspace (root : Path) (name subPath : String) :
    J (Query.moduleInWorkspace? root name subPath) := by
  have hcrates : J (do
      let crates ← Query.subdirectories (root / (← Query.layout).cratesDir)
      Query.firstHit (Query.moduleOfCrate? name subPath) crates) := by
    refine h.bind h.layout fun _ => h.bind (h.subdirectories _) fun crates => ?_
    refine h.firstHit (fun crateDir => h.bind h.layout fun _ => ?_) crates
    exact h.orElse (h.moduleBelow _ _) (h.moduleInSubdirectories _ _)
  refine h.bind_option (h.map (h.namespaceTable root) _) ?_ fun entry => ?_
  · exact h.bind_option (h.pure none) hcrates fun _ => h.pure _
  · refine h.bind_option (h.bind h.layout fun _ => ?_) hcrates fun _ => h.pure _
    exact h.orElse (h.moduleBelow _ _) (h.moduleInSubdirectories _ _)

theorem moduleInProject (file : Path) (name subPath : String) :
    J (Query.moduleInProject? file name subPath) := by
  refine h.bind h.layout fun _ => h.bind h.read fun _ => ?_
  exact h.bind_option (h.ofExcept _) (h.pure _) fun _ => h.moduleBelow _ _

theorem namespaced (file : Path) (name : String) (segments : List String) :
    J (Query.namespaced? file name segments) := by
  refine h.bind h.layout fun layout => ?_
  cases modulePath? layout.moduleExtension segments with
  | none => exact h.pure _
  | some subPath =>
      refine h.bind h.read fun context => ?_
      cases (context.settings.registry.externalNamespaces.get? name).filter (· ≠ "") with
      | some package => exact h.registryModule _ _
      | none =>
          refine h.orElse ?_ (h.orElse (h.moduleInProject _ _ _)
            (h.orElse (h.registryModule _ _) (h.registryModule _ _)))
          exact h.bind_option (h.workspaceRoot _ _ _) (h.pure _)
            fun _ => h.moduleInWorkspace _ _ _

theorem stdlib (segments : List String) : J (Query.stdlib? segments) := by
  refine h.bind h.layout fun layout => ?_
  cases modulePath? layout.moduleExtension segments with
  | none => exact h.pure _
  | some subPath => exact h.bind h.read fun _ => h.registryModule _ _

theorem moduleIfDirectory (fileName : String) (directory : Path) :
    J (Query.moduleIfDirectory? fileName directory) := by
  refine h.bind (h.bind h.read fun _ => h.ofExcept _) fun isDirectory => ?_
  cases isDirectory with
  | false => exact h.pure _
  | true => exact h.moduleBelow _ _

theorem aliased (file : Path) (segments : List String) : J (Query.aliased? file segments) := by
  unfold Query.aliased?
  cases segments.getLast? with
  | none => exact h.pure _
  | some last =>
      refine h.bind h.layout fun layout => h.firstHit (fun directory => ?_) _
      exact h.orElse (h.moduleIfDirectory _ _) (h.moduleIfDirectory _ _)

theorem byRule (file : Path) (rule : ImportRule) : J (Query.byRule file rule) := by
  cases rule with
  | namespaced name rest => exact h.namespaced file name rest
  | stdlib rest => exact h.stdlib rest
  | «alias» rest => exact h.aliased file rest
  | bare name => exact h.bind h.layout fun _ => h.firstHit (fun base => h.moduleBelow base _) _
  | unsupported => exact h.pure _

end OfRules

/-! ## Re-exports, definitions and documentation -/

structure OfReexports (J : ∀ {α : Type}, Query α → Prop) : Prop extends Compositional J where
  summaryOf : ∀ file, J (Query.summaryOf file)
  resolve : ∀ file localName expression, J (Query.resolve file localName expression)

namespace OfReexports

variable {J : ∀ {α : Type}, Query α → Prop} {β : Type} (h : OfReexports J)
include h

theorem followFrom (fuel : Nat) (visited : List (Path × String)) (file : Path)
    (name : String) : J (Query.followFrom fuel visited file name) := by
  induction fuel generalizing visited file name with
  | zero => exact h.pure _
  | succ fuel ih =>
      have hscan : ∀ file name, J (do
          return (← Query.scan .procedure file name).location?) :=
        fun file name => h.map (h.scan _ _ _) _
      unfold Query.followFrom
      split
      · exact h.bind (h.debug _ _) fun _ => h.pure _
      · refine h.bind (h.summaryOf file) fun summary => ?_
        simp only
        cases summary.reexports.get? name with
        | none => exact h.bind_option (h.pure none) (hscan file name) fun _ => h.pure _
        | some reexport =>
            refine h.bind_option (h.resolve _ _ _) ?_ fun target => ?_
            · exact h.bind_option (h.pure none) (hscan file name) fun _ => h.pure _
            · refine h.bind_option ?_ (hscan file name) fun _ => h.pure _
              exact h.orElse (ih _ target _) (hscan _ _)

theorem locateProcedure (file : Path) (name : String) :
    J (Query.locateProcedure file name) := by
  refine h.bind (h.scan .procedure file name) fun lookup => ?_
  cases lookup with
  | found location => exact h.pure _
  | unreadable => exact h.pure _
  | notFound =>
      refine h.bind (h.summaryOf file) fun summary => ?_
      cases summary.reexports.get? name with
      | none => exact h.pure _
      | some reexport => exact h.bind (h.readSource file) fun _ => h.pure _

theorem findProcedure (file : Path) (name : String) : J (Query.findProcedure? file name) :=
  h.map (h.locateProcedure file name) _

theorem firstInImported {search : Path → Query (Option β)} (hsearch : ∀ p, J (search p))
    (file : Path) (seen : List Path) (imports : List (String × String)) :
    J (Query.firstInImported search file seen imports) := by
  induction imports generalizing seen with
  | nil => exact h.pure _
  | cons entry rest ih =>
      refine h.bind_option (h.resolve _ _ _) (ih seen) fun target => ?_
      simp only
      split
      · exact ih seen
      · exact h.orElse (hsearch target) (ih _)

theorem inImportedModules (site : Site) (procedure : String) :
    J (Query.inImportedModules? site procedure) :=
  h.firstInImported (h.findProcedure · procedure) site.file [] _

end OfReexports

/-- Holds of every query that a definition and a documentation are made of. -/
structure OfNavigation (J : ∀ {α : Type}, Query α → Prop) : Prop extends OfReexports J where
  findSource : ∀ file name, J (Query.findSource? file name)
  documentation : ∀ target procedure, J (Query.documentation? target procedure)

/-- What holds of a look into the caches and of a fault too holds of every query. -/
theorem OfReexports.ofNavigation {J : ∀ {α : Type}, Query α → Prop} (h : OfReexports J)
    (hcaches : J Query.caches)
    (hofExcept : ∀ {α : Type} (outcome : Except Fault α), J (Query.ofExcept outcome)) :
    OfNavigation J := by
  have hfindSource : ∀ file name, J (Query.findSource? file name) := by
    intro file name
    have hbound : J Query.walkBound := h.bind h.read fun _ => h.map hcaches _
    exact h.bind hbound fun fuel => h.followFrom fuel [] file name
  refine { h with findSource := hfindSource, documentation := fun target procedure => ?_ }
  refine h.bind (h.readSource target) fun result => ?_
  simp only
  cases firstDefinition? .procedure procedure result.lines with
  | some found => exact h.map (hofExcept _) _
  | none =>
      refine h.bind_option (hfindSource target procedure) (h.pure _) fun location => ?_
      exact h.bind (h.readSource _) fun _ => h.map (hofExcept _) _

namespace OfNavigation

variable {J : ∀ {α : Type}, Query α → Prop} {β : Type} (h : OfNavigation J)
include h

theorem findConstant (file : Path) (name : String) : J (Query.findConstant? file name) :=
  h.map (h.scan _ _ _) _

theorem importedModule (file : Path) (i : Import) : J (Query.importedModule? file i) :=
  h.map (h.resolve _ _ _) _

theorem importedConstant (file : Path) (i : Import) (word : String) :
    J (Query.importedConstant? file i word) :=
  h.bind_option (h.resolve _ _ _) (h.pure _) fun target => h.findConstant target word

theorem fromImport (site : Site) : J (Query.fromImport site) := by
  unfold Query.fromImport
  cases import? site.line.toList with
  | none => exact h.pure _
  | some i =>
      refine h.orElse ?_ ?_
      · split
        · exact h.importedModule _ i
        · exact h.pure _
      · split
        · exact h.pure _
        · refine h.orElse ?_ (h.importedModule _ i)
          split
          · exact h.importedConstant _ i _
          · exact h.pure _

theorem fromQualifiedCall (site : Site) : J (Query.fromQualifiedCall site) := by
  unfold Query.fromQualifiedCall
  cases callOfWord? site.line site.word with
  | none => exact h.pure _
  | some call =>
      refine h.bind_option (h.resolve _ _ _) (h.pure _) fun target => ?_
      simp only
      split
      · exact h.pure _
      · exact h.orElse (h.findSource _ _) (h.findProcedure _ _)

theorem fromLocalCall (site : Site) : J (Query.fromLocalCall site) := by
  unfold Query.fromLocalCall
  cases localCall? site.line site.word with
  | none => exact h.pure _
  | some procedure => exact h.orElse (h.findProcedure _ _) (h.inImportedModules _ _)

theorem byStrategy (site : Site) (strategy : Strategy) : J (Query.byStrategy site strategy) := by
  cases strategy with
  | fromImport => exact h.fromImport site
  | fromQualifiedCall => exact h.fromQualifiedCall site
  | fromLocalCall => exact h.fromLocalCall site
  | fromLocalDefinition => exact h.findProcedure _ _
  | fromImportedModules => exact h.inImportedModules site _

theorem tryStrategies (site : Site) (strategies : List Strategy) :
    J (Query.tryStrategies site strategies) := by
  refine h.firstHit (fun strategy => ?_) strategies
  refine h.bind_option (h.byStrategy _ strategy) (h.pure _) fun location => ?_
  exact h.bind (h.debug _ _) fun _ => h.pure _

theorem definitionBy (strategies : List Strategy) (path : Path) (line : String) (column : Int) :
    J (Query.definitionBy strategies path line column) := by
  refine h.bind h.read fun context => ?_
  simp only
  cases navigableWord? line column with
  | none => exact h.pure _
  | some word => exact h.bind (h.summaryOf _) fun summary => h.tryStrategies _ strategies

theorem definitionIn (document : Document) (line column : Int) :
    J (Query.definitionIn document line column) :=
  h.bind h.read fun _ => h.definitionBy Strategy.all _ _ _

theorem hover (path : Path) (line : String) (column : Int) : J (Query.hover path line column) := by
  refine h.bind h.read fun context => ?_
  simp only
  cases navigableWord? line column with
  | none => exact h.pure _
  | some word =>
      simp only
      cases callOfWord? line word with
      | none => exact h.pure _
      | some call =>
          simp only
          split
          · exact h.pure _
          · refine h.bind (h.summaryOf _) fun summary => ?_
            exact h.bind_option (h.resolve _ _ _) (h.pure _) fun target => h.documentation target _

theorem hoverIn (document : Document) (line column : Int) :
    J (Query.hoverIn document line column) := h.bind h.read fun _ => h.hover _ _ _

theorem resolveImport (path : Path) (expression : String) :
    J (Query.resolveImport path expression) :=
  h.bind h.read fun _ => h.resolve _ _ expression

end OfNavigation

end AsmNavigator.Session
