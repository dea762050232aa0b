import AsmNavigator.Proofs.Session.Agreement

/-! # The resolver on caches that agree

Each query of the resolver answers what its function of the context gives. The three
queries that look into a cache are treated first: a hit is the recomputation because the
caches agree, a miss recomputes and stores what it found.
-/

namespace AsmNavigator.Session

open Config Source Workspace

namespace Answers

variable {c : Context} {K : Path → Prop}

/-! ## Files, summaries and namespaces -/

theorem readSource (file : Path) :
    Answers c K (Query.readSource file) (.ok (Source.read c.world file)) := by
  unfold Query.readSource
  refine Answers.read.bind_ok ?_
  cases h : Source.read c.world file with
  | found lines => exact .pure _
  | unreadable fault => exact (Answers.debug _ _).bind_ok (.pure _)

theorem summaryOf {file : Path} (hk : K file) :
    Answers c K (Query.summaryOf file) (.ok (c.summary file)) := by
  unfold Query.summaryOf
  refine caches_bind fun caches hagree => ?_
  cases hget : caches.summaries.get? file with
  | some summary =>
      rw [(hagree.summaries hget).2]
      exact .pure _
  | none =>
      refine (readSource file).bind_ok ?_
      exact (modifyCaches fun caches h => h.insertSummary hk).bind_ok (.pure _)

theorem namespaceTable {root : Path} (hk : K root) :
    Answers c K (Query.namespaceTable root) (c.table root) := by
  unfold Query.namespaceTable
  refine caches_bind fun caches hagree => ?_
  cases hget : caches.namespaces.get? root with
  | some table =>
      rw [(hagree.namespaces hget).2]
      exact .pure _
  | none =>
      refine Answers.read.bind_ok ?_
      rw [show c.table root = c.table root >>= Except.ok by cases c.table root <;> rfl]
      refine (ofExcept _).bind fun table htable => ?_
      refine (modifyCaches fun caches h => h.insertNamespaces hk htable).bind_ok ?_
      exact (debug _ _).bind_ok (.pure _)

theorem namespaceNamed {root : Path} (hk : K root) (name : String) :
    Answers c K (Query.namespaceNamed? root name)
      (do return (← c.table root).lookup? name) :=
  (namespaceTable hk).map _

end Answers

/-! ## Where upward walks end -/

theorem holds_of_firstDirectory {test : Path → Except Fault Bool} {directories : List Path}
    {found : Path} (h : firstDirectory test directories = .ok (some found)) :
    found ∈ directories ∧ test found = .ok true := by
  induction directories with
  | nil => cases h
  | cons directory rest ih =>
      unfold firstDirectory Workspace.firstHit at h
      rcases htest : test directory with fault | _ | _
      · rw [htest] at h
        cases h
      · rw [htest] at h
        obtain ⟨hmem, hfound⟩ := ih h
        exact ⟨List.mem_cons_of_mem _ hmem, hfound⟩
      · rw [htest] at h
        cases h
        exact ⟨List.mem_cons_self, htest⟩

theorem confined_of_mem_ancestors {K : Path → Prop} (hup : ∀ p, K p → K p.parent) {p q : Path}
    {depth : Nat} (hp : K p) (h : q ∈ p.ancestors depth) : K q := by
  induction depth generalizing p with
  | zero => simp [Path.ancestors] at h
  | succ depth ih =>
      simp only [Path.ancestors, List.mem_cons] at h
      rcases h with rfl | h
      · exact hp
      · split at h
        · simp at h
        · exact ih (hup p hp) h

theorem workspaceRoot_confined {c : Context} {K : Path → Prop} (hup : ∀ p, K p → K p.parent)
    {file root : Path} (hk : K file) (h : c.workspaceRoot file = .ok (some root)) : K root :=
  confined_of_mem_ancestors hup (hup file hk) (holds_of_firstDirectory h).1

namespace Answers

variable {c : Context} {K : Path → Prop}

/-! ## The rules for imports -/

theorem moduleBelow (base : Path) (subPath : String) :
    Answers c K (Query.moduleBelow? base subPath) (c.moduleBelow base subPath) :=
  Answers.read.bind_ok (ofExcept _)

theorem subdirectories (p : Path) :
    Answers c K (Query.subdirectories p) (Workspace.subdirectories c.world p) :=
  Answers.read.bind_ok (ofExcept _)

theorem moduleInSubdirectories (library : Path) (subPath : String) :
    Answers c K (Query.moduleInSubdirectories? library subPath)
      (c.moduleInSubdirectories library subPath) :=
  (subdirectories library).bind fun directories _ =>
    firstHit (fun base => moduleBelow base subPath) directories

theorem moduleOfNamespace (entry : NamespaceEntry) (subPath : String) :
    Answers c K (Query.moduleOfNamespace? entry subPath)
      (c.moduleOfNamespace entry subPath) :=
  Answers.layout.bind_ok ((moduleBelow _ subPath).orElse (moduleInSubdirectories _ subPath))

theorem moduleOfCrate (name subPath : String) (crateDir : Path) :
    Answers c K (Query.moduleOfCrate? name subPath crateDir)
      (c.moduleOfCrate name subPath crateDir) :=
  Answers.layout.bind_ok ((moduleBelow _ subPath).orElse (moduleInSubdirectories _ subPath))

theorem moduleInCrates (root : Path) (name subPath : String) :
    Answers c K (do
        Query.firstHit (Query.moduleOfCrate? name subPath)
          (← Query.subdirectories (root / (← Query.layout).cratesDir)))
      (c.moduleInCrates root name subPath) :=
  Answers.layout.bind_ok ((subdirectories _).bind fun crates _ =>
    firstHit (moduleOfCrate name subPath) crates)

theorem moduleInWorkspace {root : Path} (hk : K root) (name subPath : String) :
    Answers c K (Query.moduleInWorkspace? root name subPath)
      (c.moduleInWorkspace root name subPath) := by
  have hassoc : c.moduleInWorkspace root name subPath =
      (do return (← c.table root).lookup? (NamespaceTable.family ++ name)) >>= fun found? =>
        Session.orElse (c.moduleDeclared found? subPath) (c.moduleInCrates root name subPath) := by
    unfold Context.moduleInWorkspace
    cases c.table root <;> rfl
  rw [hassoc]
  refine (namespaceNamed hk _).bind fun found? _ => ?_
  cases found? with
  | none => exact (Answers.pure none).orElse (moduleInCrates root name subPath)
  | some entry =>
      refine (moduleOfNamespace entry subPath).bind fun declared _ => ?_
      cases declared with
      | none => exact moduleInCrates root name subPath
      | some path => exact .pure _

theorem moduleInProject (file : Path) (name subPath : String) :
    Answers c K (Query.moduleInProject? file name subPath)
      (c.moduleInProject file name subPath) := by
  refine Answers.layout.bind_ok (Answers.read.bind_ok ?_)
  refine (ofExcept _).bind fun root? _ => ?_
  cases root? with
  | none => exact .pure _
  | some root => exact moduleBelow _ subPath

theorem registryModule (package subPath : String) :
    Answers c K (Query.registryModule? package subPath) (c.registryModule package subPath) := by
  refine Answers.read.bind_ok ?_
  refine (ofExcept _).bind fun outcome _ => ?_
  cases outcome with
  | noRegistry sources => exact (debug _ _).bind_ok (.pure _)
  | hit version path => exact (debug _ _).bind_ok (.pure _)
  | miss => exact .pure _

theorem workspaceRoot (file : Path) :
    Answers c K
      (Query.workspaceRoot? c.settings.layout.workspaceManifest c.settings.layout.maxRootDepth file)
      (c.workspaceRoot file) := by
  refine Answers.read.bind_ok ?_
  rw [show c.workspaceRoot file = c.workspaceRoot file >>= Except.ok by
    cases c.workspaceRoot file <;> rfl]
  refine (ofExcept _).bind fun root? _ => ?_
  cases root? with
  | none => exact (debug _ _).bind_ok (.pure _)
  | some root => exact .pure _

theorem moduleInWorkspaceOf (hup : ∀ p, K p → K p.parent) {file : Path} (hk : K file)
    (name subPath : String) :
    Answers c K (do
        match ← Query.workspaceRoot? c.settings.layout.workspaceManifest
          c.settings.layout.maxRootDepth file with
        | some root => Query.moduleInWorkspace? root name subPath
        | none => return none)
      (c.moduleInWorkspaceOf file name subPath) := by
  refine (workspaceRoot file).bind fun root? hroot => ?_
  cases root? with
  | none => exact .pure _
  | some root => exact moduleInWorkspace (workspaceRoot_confined hup hk hroot) name subPath

theorem namespaced (hup : ∀ p, K p → K p.parent) {file : Path} (hk : K file) (name : String)
    (segments : List String) :
    Answers c K (Query.namespaced? file name segments) (c.namespaced file name segments) := by
  unfold Query.namespaced? Context.namespaced
  refine Answers.layout.bind_ok ?_
  cases modulePath? c.settings.layout.moduleExtension segments with
  | none => exact .pure _
  | some subPath =>
      refine Answers.read.bind_ok ?_
      unfold Context.externalPackage?
      cases (c.settings.registry.externalNamespaces.get? name).filter (· ≠ "") with
      | some package => exact registryModule package subPath
      | none =>
          exact (moduleInWorkspaceOf hup hk name subPath).orElse
            ((moduleInProject file name subPath).orElse
              ((registryModule _ subPath).orElse (registryModule _ subPath)))

theorem stdlib (segments : List String) :
    Answers c K (Query.stdlib? segments) (c.stdlib segments) := by
  unfold Query.stdlib? Context.stdlib
  refine Answers.layout.bind_ok ?_
  cases modulePath? c.settings.layout.moduleExtension segments with
  | none => exact .pure _
  | some subPath => exact Answers.read.bind_ok (registryModule _ subPath)

theorem moduleIfDirectory (fileName : String) (directory : Path) :
    Answers c K (Query.moduleIfDirectory? fileName directory)
      (c.moduleIfDirectory fileName directory) := by
  have htest : Answers c K (Query.directory? directory) (c.world.isDirectory directory) :=
    Answers.read.bind_ok (ofExcept _)
  refine htest.bind fun isDirectory _ => ?_
  cases isDirectory with
  | false => exact .pure _
  | true => exact moduleBelow directory fileName

theorem aliased (file : Path) (segments : List String) :
    Answers c K (Query.aliased? file segments) (c.aliased file segments) := by
  unfold Query.aliased? Context.aliased
  cases segments.getLast? with
  | none => exact .pure _
  | some last =>
      exact Answers.layout.bind_ok (firstHit (fun directory =>
        (moduleIfDirectory _ _).orElse (moduleIfDirectory _ _)) _)

theorem bare (file : Path) (name : String) :
    Answers c K (Query.bare? file name) (c.bare file name) :=
  Answers.layout.bind_ok (firstHit (fun base => moduleBelow base _) _)

theorem byRule (hup : ∀ p, K p → K p.parent) {file : Path} (hk : K file) (rule : ImportRule) :
    Answers c K (Query.byRule file rule) (c.byRule file rule) := by
  cases rule with
  | namespaced name rest => exact namespaced hup hk name rest
  | stdlib rest => exact stdlib rest
  | «alias» rest => exact aliased file rest
  | bare name => exact bare file name
  | unsupported => exact .pure _

/-- A resolution does not depend on the name under which the module is used. -/
theorem resolve (hup : ∀ p, K p → K p.parent) {file : Path} (hk : K file)
    (localName expression : String) :
    Answers c K (Query.resolve file localName expression) (c.resolution file expression) := by
  unfold Query.resolve
  refine caches_bind fun caches hagree => ?_
  cases hget : caches.resolutions.get? (file, expression) with
  | some known =>
      rw [hagree.resolutions hget]
      exact .pure _
  | none =>
      refine (byRule hup hk (ImportRule.ofExpression expression)).bind fun found? hfound => ?_
      have hresolution : c.resolution file expression = .ok (found?.map Path.normalize) := by
        unfold Context.resolution
        rw [hfound]
        rfl
      refine (modifyCaches fun caches h => h.insertResolution hresolution).bind_ok ?_
      exact (debug _ _).bind_ok (.pure _)

end Answers

/-- The resolution that a session gives which has just begun. -/
def Context.freshResolution (c : Context) (file : Path) (localName expression : String) :
    Except Fault (Option Path) :=
  ((Query.resolve file localName expression).run c .start).1

theorem freshResolution_eq {c : Context} (file : Path) (localName expression : String) :
    c.freshResolution file localName expression = c.resolution file expression :=
  (Answers.resolve (fun _ _ => trivial) trivial localName expression State.start
    (Caches.agree_empty c fun _ => True)).1

end AsmNavigator.Session
