import AsmNavigator.Proofs.Registry.Versions
import AsmNavigator.Proofs.Session.DefinitionSound
import AsmNavigator.Proofs.Session.Navigation
import AsmNavigator.Proofs.Session.RegistryOnly
import AsmNavigator.Proofs.Session.Transparency
import AsmNavigator.Proofs.Workspace.TableEntries

/-! # The faults of a navigation

A navigation ends with a fault for two reasons only: it asks about a path that is too long,
or the registry holds a version with a piece that looks like a number and is none. Files
that are missing or cannot be read, directories that cannot be listed and re-exports in a
circle are no faults.
-/

namespace AsmNavigator.Session

open Config Source Workspace

/-- The faults with which a navigation can end. -/
inductive Context.Refuses (c : Context) : Fault → Prop
  | overLong {p : Path} (hlong : p.IsOverLong c.world.env.cwd) :
      c.Refuses (.os .nameTooLong p.toString)
  | version {root indexDir : Path} {indexDirs : List Path} {package name piece : String}
      (hroot : Registry.root c.world c.registryRoot? = .ok root)
      (hlisted : subdirectories c.world (sourcesOf root) = .ok indexDirs)
      (hindex : indexDir ∈ indexDirs)
      (hholds : Registry.HoldsVersion c.world package indexDir name)
      (hpiece : VersionKey.HasOddPiece name piece) : c.Refuses (.notANumber piece)

/-- What a layout needs so that the directories it names can be handed to the operating
system. -/
structure HasOrdinaryNames (layout : Layout) : Prop where
  libraryDir : IsPlainName layout.libraryDir ∧ IsOrdinaryName layout.libraryDir
  cratesDir : IsPlainName layout.cratesDir ∧ IsOrdinaryName layout.cratesDir
  buildScript : IsPlainName layout.buildScript ∧ IsOrdinaryName layout.buildScript
  workspaceManifest : IsPlainName layout.workspaceManifest

theorem hasOrdinaryNames_default : HasOrdinaryNames {} where
  libraryDir := ⟨isPlainLayout_default.libraryDir, by decide⟩
  cratesDir := ⟨isPlainLayout_default.cratesDir, by decide⟩
  buildScript := ⟨⟨by decide, by decide, by decide, by decide⟩, by decide⟩
  workspaceManifest := ⟨by decide, by decide, by decide, by decide⟩

theorem isEncodable_div {p : Path} (hp : p.IsEncodable) {name : String}
    (hname : IsPlainName name ∧ IsOrdinaryName name) : (p / name).IsEncodable := by
  rw [Path.div_plain _ hname.1]
  exact hp.below (by simpa using hname.2)

/-! ## Searches that fail for known reasons -/

def FailsWith (F : Fault → Prop) (outcome : Except Fault α) : Prop :=
  ∀ fault, outcome = .error fault → F fault

namespace FailsWith

variable {α β : Type} {F : Fault → Prop}

theorem ok (a : α) : FailsWith F (.ok a) := by
  intro fault h
  cases h

theorem bind {x : Except Fault α} {f : α → Except Fault β} (hx : FailsWith F x)
    (hf : ∀ a, x = .ok a → FailsWith F (f a)) : FailsWith F (x >>= f) := by
  intro fault h
  cases x with
  | error refusal =>
      cases h
      exact hx fault rfl
  | ok a => exact hf a rfl fault h

theorem map {x : Except Fault α} (hx : FailsWith F x) (f : α → β) :
    FailsWith F (do return f (← x)) :=
  hx.bind fun _ _ => ok _

theorem orElse {first second : Except Fault (Option β)} (hfirst : FailsWith F first)
    (hsecond : FailsWith F second) : FailsWith F (Session.orElse first second) := by
  refine hfirst.bind fun found? _ => ?_
  cases found? with
  | none => exact hsecond
  | some b => exact ok _

theorem firstHit {search : α → Except Fault (Option β)} {items : List α}
    (h : ∀ a ∈ items, FailsWith F (search a)) : FailsWith F (Workspace.firstHit search items) := by
  induction items with
  | nil => exact ok _
  | cons a rest ih =>
      refine (h a (by simp)).bind fun found? _ => ?_
      cases found? with
      | none => exact ih fun a' ha' => h a' (List.mem_cons_of_mem _ ha')
      | some b => exact ok _

end FailsWith

variable {c : Context}

theorem failsWith_isFile (p : Path) : FailsWith c.Refuses (c.world.isFile p) := by
  intro fault h
  obtain ⟨rfl, hlong⟩ := FileTree.isOverLong_of_isFile h
  exact .overLong hlong

theorem failsWith_isDirectory (p : Path) : FailsWith c.Refuses (c.world.isDirectory p) := by
  intro fault h
  obtain ⟨rfl, hlong⟩ := FileTree.isOverLong_of_isDirectory h
  exact .overLong hlong

theorem failsWith_subdirectories {p : Path} (hp : p.IsEncodable) :
    FailsWith c.Refuses (subdirectories c.world p) := by
  obtain ⟨found, hfound⟩ := exists_subdirectories (w := c.world) hp
  rw [hfound]
  exact .ok found

theorem failsWith_findModule (extension indexFile : String) (base : Path) (subPath : String) :
    FailsWith c.Refuses (findModule c.world extension indexFile base subPath) := by
  refine (failsWith_isFile _).bind fun direct _ => ?_
  cases direct with
  | true => exact .ok _
  | false =>
      refine (failsWith_isFile _).bind fun indexed _ => ?_
      cases indexed <;> exact .ok _

theorem failsWith_moduleBelow (base : Path) (subPath : String) :
    FailsWith c.Refuses (c.moduleBelow base subPath) :=
  failsWith_findModule _ _ base subPath

theorem failsWith_moduleInSubdirectories {library : Path} (hlibrary : library.IsEncodable)
    (subPath : String) : FailsWith c.Refuses (c.moduleInSubdirectories library subPath) :=
  (failsWith_subdirectories hlibrary).bind fun _ _ =>
    .firstHit fun base _ => failsWith_moduleBelow base subPath

theorem failsWith_firstDirectory {test : Path → Except Fault Bool}
    (htest : ∀ p, FailsWith c.Refuses (test p)) (directories : List Path) :
    FailsWith c.Refuses (firstDirectory test directories) := by
  refine .firstHit fun directory _ => (htest directory).bind fun holds _ => ?_
  cases holds <;> exact .ok _

/-! ## Workspaces and projects -/

/-- A manifest that is there can be looked up, so that it can be read or is refused. -/
theorem failsWith_workspaceRoot (file : Path) : FailsWith c.Refuses (c.workspaceRoot file) := by
  refine failsWith_firstDirectory (fun directory => ?_) _
  refine (failsWith_isFile _).bind fun isFile hfile => ?_
  cases isFile with
  | false => exact .ok _
  | true =>
      obtain ⟨bytes, hstat⟩ := FileTree.isFile_iff.mp hfile
      have hmanifest := (FileTree.stat_ok_iff.mp hstat).1.isEncodable
      obtain ⟨holds, hholds⟩ := exists_orOnRefusal_readText (w := c.world) hmanifest false
        fun text => Text.containsText workspaceMarker.toList text.toList
      rw [show isWorkspaceManifest c.world _ = .ok holds from hholds]
      exact .ok _

theorem failsWith_projectRoot (file : Path) : FailsWith c.Refuses (c.projectRoot file) :=
  failsWith_firstDirectory (fun _ => failsWith_isDirectory _) _

theorem failsWith_moduleInProject (file : Path) (name subPath : String) :
    FailsWith c.Refuses (c.moduleInProject file name subPath) := by
  refine (failsWith_projectRoot file).bind fun root? _ => ?_
  cases root? with
  | none => exact .ok _
  | some root => exact failsWith_moduleBelow _ _

section Layout

variable (hlayout : HasOrdinaryNames c.settings.layout)
include hlayout

theorem isEncodable_of_workspaceRoot {file root : Path}
    (h : c.workspaceRoot file = .ok (some root)) : root.IsEncodable := by
  have htest := (holds_of_firstDirectory h).2
  simp only at htest
  rcases hfile : c.world.isFile (root / c.settings.layout.workspaceManifest) with fault | _ | _
  · rw [hfile] at htest
    cases htest
  · rw [hfile] at htest
    cases htest
  · obtain ⟨bytes, hstat⟩ := FileTree.isFile_iff.mp hfile
    have hmanifest := (FileTree.stat_ok_iff.mp hstat).1.isEncodable
    rw [Path.div_plain _ hlayout.workspaceManifest] at hmanifest
    exact hmanifest.of_below

theorem exists_bindingsOf {crateDir : Path} (hcrate : crateDir.IsEncodable) :
    ∃ found, NamespaceTable.bindingsOf c.world c.settings.layout c.settings.registry crateDir =
      .ok found :=
  exists_orOnRefusal_readText (isEncodable_div hcrate hlayout.buildScript) [] _

theorem exists_table {root : Path} (hroot : root.IsEncodable) :
    ∃ table, c.table root = .ok table ∧
      EntriesSatisfy (fun crateDir _ => crateDir.IsEncodable) table := by
  obtain ⟨crates, hcrates⟩ :=
    exists_subdirectories (w := c.world) (isEncodable_div hroot hlayout.cratesDir)
  have hencodable : ∀ crate ∈ crates, crate.IsEncodable := fun crate hcrate =>
    (expressible_of_mem_subdirectories hcrates hcrate).isEncodable
  have hfold : ∀ table, ∃ result, crates.foldlM (NamespaceTable.addCrate c.world
      c.settings.layout c.settings.registry) table = .ok result := by
    refine exists_foldlM fun crate hcrate table => ?_
    obtain ⟨found, hfound⟩ := exists_bindingsOf hlayout (hencodable crate hcrate)
    exact ⟨_, bind_eq_ok.mpr ⟨found, hfound, rfl⟩⟩
  obtain ⟨table, htable⟩ := hfold OrderedMap.empty
  have hdiscover : c.table root = .ok table := bind_eq_ok.mpr ⟨crates, hcrates, htable⟩
  refine ⟨table, hdiscover, EntriesSatisfy.discover ?_ hdiscover⟩
  intro crates' hcrates' crate hcrate found hfound binding hbinding
  rw [hcrates] at hcrates'
  cases hcrates'
  exact hencodable crate hcrate

theorem failsWith_moduleInWorkspace {root : Path} (hroot : root.IsEncodable)
    (name subPath : String) : FailsWith c.Refuses (c.moduleInWorkspace root name subPath) := by
  have hlibrary : ∀ {crateDir : Path}, crateDir.IsEncodable → FailsWith c.Refuses
      (c.moduleInSubdirectories (crateDir / c.settings.layout.libraryDir) subPath) :=
    fun hcrate => failsWith_moduleInSubdirectories (isEncodable_div hcrate hlayout.libraryDir) _
  obtain ⟨table, htable, hentries⟩ := exists_table hlayout hroot
  unfold Context.moduleInWorkspace
  rw [htable]
  refine FailsWith.orElse ?_ ?_
  · cases hlookup : table.lookup? (NamespaceTable.family ++ name) with
    | none => exact .ok _
    | some entry =>
        exact (failsWith_moduleBelow _ _).orElse (hlibrary (hentries.lookup? hlookup))
  · refine (failsWith_subdirectories (isEncodable_div hroot hlayout.cratesDir)).bind
      fun crates hcrates => .firstHit fun crateDir hcrate => ?_
    have hcrateDir := (expressible_of_mem_subdirectories hcrates hcrate).isEncodable
    exact (failsWith_moduleBelow _ _).orElse (hlibrary hcrateDir)

theorem failsWith_moduleInWorkspaceOf (file : Path) (name subPath : String) :
    FailsWith c.Refuses (c.moduleInWorkspaceOf file name subPath) := by
  refine (failsWith_workspaceRoot file).bind fun root? hroot => ?_
  cases root? with
  | none => exact .ok _
  | some root =>
      exact failsWith_moduleInWorkspace hlayout (isEncodable_of_workspaceRoot hlayout hroot) _ _

end Layout

/-! ## The registry -/

theorem failsWith_registryModule (hsound : c.world.tree.Sound) {root : Path}
    (hroot : Registry.root c.world c.registryRoot? = .ok root) (package subPath : String) :
    FailsWith c.Refuses (c.registryModule package subPath) := by
  rw [registryModule_of_root hroot]
  refine (failsWith_isDirectory _).bind fun isDirectory htop => ?_
  cases isDirectory with
  | false => exact .ok _
  | true =>
      -- the sources are a directory, so their path can be looked up
      have hsources := (FileTree.stat_ok_iff.mp (FileTree.isDirectory_iff.mp htop)).1.isEncodable
      refine .map ?_ _
      refine (failsWith_subdirectories hsources).bind fun indexDirs hindexDirs => ?_
      refine .firstHit fun indexDir hindex => ?_
      have hindexDir := (expressible_of_mem_subdirectories hindexDirs hindex).isEncodable
      have hversions : FailsWith c.Refuses (Registry.versions c.world package indexDir) := by
        intro fault hfault
        obtain ⟨name, piece, hholds, hpiece, rfl⟩ :=
          Registry.hasOddPiece_of_versions_error hsound hindexDir hfault
        exact .version hroot hindexDirs hindex hholds hpiece
      refine hversions.bind fun versions _ => .firstHit fun version _ => ?_
      exact .map (failsWith_findModule _ _ _ _) _

/-! ## Imports -/

section Rules

variable (hsound : c.world.tree.Sound) (hlayout : HasOrdinaryNames c.settings.layout)
  {root : Path} (hroot : Registry.root c.world c.registryRoot? = .ok root)

include hsound hroot in
theorem failsWith_stdlib (segments : List String) :
    FailsWith c.Refuses (c.stdlib segments) := by
  unfold Context.stdlib
  cases modulePath? c.settings.layout.moduleExtension segments with
  | none => exact .ok _
  | some subPath => exact failsWith_registryModule hsound hroot _ _

theorem failsWith_moduleIfDirectory (fileName : String) (directory : Path) :
    FailsWith c.Refuses (c.moduleIfDirectory fileName directory) := by
  refine (failsWith_isDirectory _).bind fun isDirectory _ => ?_
  cases isDirectory with
  | false => exact .ok _
  | true => exact failsWith_moduleBelow _ _

theorem failsWith_aliased (file : Path) (segments : List String) :
    FailsWith c.Refuses (c.aliased file segments) := by
  unfold Context.aliased
  cases segments.getLast? with
  | none => exact .ok _
  | some last =>
      refine .firstHit fun directory _ => ?_
      exact (failsWith_moduleIfDirectory _ _).orElse (failsWith_moduleIfDirectory _ _)

theorem failsWith_bare (file : Path) (name : String) : FailsWith c.Refuses (c.bare file name) :=
  .firstHit fun base _ => failsWith_moduleBelow base _

include hsound hlayout hroot

theorem failsWith_namespaced (file : Path) (name : String) (segments : List String) :
    FailsWith c.Refuses (c.namespaced file name segments) := by
  unfold Context.namespaced
  cases modulePath? c.settings.layout.moduleExtension segments with
  | none => exact .ok _
  | some subPath =>
      have hregistry := fun package => failsWith_registryModule hsound hroot package subPath
      simp only
      cases c.externalPackage? name with
      | some package => exact hregistry package
      | none =>
          refine (failsWith_moduleInWorkspaceOf hlayout file name subPath).orElse ?_
          refine (failsWith_moduleInProject file name subPath).orElse ?_
          exact (hregistry _).orElse (hregistry _)

theorem failsWith_resolution (file : Path) (expression : String) :
    FailsWith c.Refuses (c.resolution file expression) := by
  refine .map ?_ _
  cases ImportRule.ofExpression expression with
  | namespaced name rest => exact failsWith_namespaced hsound hlayout hroot file name rest
  | stdlib rest => exact failsWith_stdlib hsound hroot rest
  | «alias» rest => exact failsWith_aliased file rest
  | bare name => exact failsWith_bare file name
  | unsupported => exact .ok _

end Rules

/-! ## Navigations -/

/-- A query with one answer on all caches that agree, which is no fault but a known one. -/
def Foreseen (c : Context) (q : Query α) : Prop :=
  ∃ a, Answers c (fun _ => True) q a ∧ FailsWith c.Refuses a

namespace Foreseen

variable {α β : Type}

theorem of_ok {q : Query α} {a : α} (h : Answers c (fun _ => True) q (.ok a)) : Foreseen c q :=
  ⟨_, h, .ok a⟩

/-- The rest of a query may use the answer of its first part. -/
theorem bind_of_answers {x : Query α} {f : α → Query β} {a : Except Fault α}
    (hx : Answers c (fun _ => True) x a) (ha : FailsWith c.Refuses a)
    (hf : ∀ v, a = .ok v → Foreseen c (f v)) : Foreseen c (x >>= f) := by
  cases a with
  | error fault =>
      have hfault := ha fault rfl
      refine ⟨_, hx.bind_error, ?_⟩
      intro other hother
      cases hother
      exact hfault
  | ok v =>
      obtain ⟨b, hb, hb'⟩ := hf v rfl
      exact ⟨b, hx.bind_ok hb, hb'⟩

theorem compositional (c : Context) : Compositional fun {_} q => Foreseen c q where
  pure a := of_ok (.pure a)
  read := of_ok .read
  debug name fields := of_ok (.debug name fields)
  bind := by
    rintro α β x f ⟨a, hx, ha⟩ hf
    exact bind_of_answers hx ha fun v _ => hf v

end Foreseen

/-- The comment above a line that is there. -/
theorem docComment_of_le {lines : List String} {number : Nat} (h : number ≤ lines.length) :
    ∃ doc, docComment lines number = .ok doc := by
  unfold docComment
  rw [if_neg (by omega)]
  exact ⟨_, rfl⟩

theorem lt_length_of_firstDefinition? {kind : SymbolKind} {name : String} {lines : List String}
    {found : Nat × String} (h : firstDefinition? kind name lines = some found) :
    found.1 < lines.length := by
  unfold firstDefinition? at h
  obtain ⟨number, hnumber, rfl⟩ := Option.map_eq_some_iff.mp h
  exact (List.findIdx?_eq_some_iff_getElem.mp hnumber).1

/-- What the search along re-exports finds is a line of its file. -/
theorem lt_length_of_source {s : Symbol} {place : Location} (h : c.source s = .ok (some place)) :
    place.line < (Source.read c.world place.file).lines.length := by
  obtain ⟨t, -, ht⟩ := leadsTo_of_follow h
  obtain ⟨hfile, text, ⟨lines, hread, hline⟩, -⟩ := isLineAt_of_definitionIn ht
  rw [hread]
  exact (List.getElem?_eq_some_iff.mp hline).1

section Navigation

variable (hsound : c.world.tree.Sound) (hlayout : HasOrdinaryNames c.settings.layout)
  {root : Path} (hroot : Registry.root c.world c.registryRoot? = .ok root)
include hsound hlayout hroot

theorem failsWith_source (s : Symbol) : FailsWith c.Refuses (c.source s) := by
  obtain ⟨walk, last, -, -, hfollow⟩ := exists_longestWalk_follow s (Nat.le_refl c.walkLimit)
  intro fault hfault
  unfold Context.source at hfault
  rw [hfollow] at hfault
  rcases hnext : c.next last with refusal | next?
  · rw [hnext] at hfault
    cases hfault
    cases hget : (c.summary last.1).reexports.get? last.2 with
    | none =>
        rw [next_of_no_reexport hget] at hnext
        cases hnext
    | some reexport =>
        rw [next_of_reexport hget] at hnext
        rcases hresolved : c.resolution last.1
          (c.expressionFor last.1 reexport.moduleName) with cause | target?
        all_goals
          rw [hresolved] at hnext
          cases hnext
        exact failsWith_resolution hsound hlayout hroot _ _ fault hresolved
  · rw [hnext] at hfault
    cases hfault

theorem foreseen_documentation (target : Path) (procedure : String) :
    Foreseen c (Query.documentation? target procedure) := by
  refine Foreseen.bind_of_answers (Answers.readSource target) (.ok _) fun result hresult => ?_
  cases hresult
  simp only
  cases hfirst : firstDefinition? .procedure procedure (Source.read c.world target).lines with
  | some found =>
      obtain ⟨doc, hdoc⟩ := docComment_of_le (lt_length_of_firstDefinition? hfirst).le
      simp only
      rw [hdoc]
      exact .of_ok ((Answers.ofExcept _).bind_ok (.pure _))
  | none =>
      have hsource := Answers.findSource (c := c) (K := fun _ => True) (fun _ _ => True.intro)
        (fun _ _ => True.intro) (s := (target, procedure)) True.intro
      refine Foreseen.bind_of_answers hsource (failsWith_source hsound hlayout hroot _)
        fun place? hplace => ?_
      cases place? with
      | none => exact .of_ok (.pure _)
      | some place =>
          refine Foreseen.bind_of_answers (Answers.readSource place.file) (.ok _)
            fun result hresult => ?_
          cases hresult
          obtain ⟨doc, hdoc⟩ := docComment_of_le (lt_length_of_source hplace).le
          rw [hdoc]
          exact .of_ok ((Answers.ofExcept _).bind_ok (.pure _))

theorem foreseen_navigation : OfNavigation fun {_} q => Foreseen c q where
  toCompositional := Foreseen.compositional c
  summaryOf file := .of_ok (answers_summaryOf file)
  resolve file localName expression :=
    ⟨_, answers_resolve file localName expression, failsWith_resolution hsound hlayout hroot _ _⟩
  findSource file name := by
    have hsource := Answers.findSource (c := c) (K := fun _ => True) (fun _ _ => True.intro)
      (fun _ _ => True.intro) (s := (file, name)) True.intro
    exact ⟨_, hsource, failsWith_source hsound hlayout hroot _⟩
  documentation := foreseen_documentation hsound hlayout hroot

theorem foreseen_of_start? {i : Inquiry} {path : Path} (hstart : i.start? = some path) :
    Foreseen c i.query := by
  have h := foreseen_navigation hsound hlayout hroot
  cases i with
  | definition path line column => exact h.definitionBy _ path line column
  | hover path line column => exact h.hover path line column
  | resolveImport path expression => exact h.resolveImport path expression
  | definitionIn document line column => exact h.definitionIn document line column
  | hoverIn document line column => exact h.hoverIn document line column
  | _ => cases hstart

end Navigation

/-- With the default settings and an absolute `CARGO_HOME`, whatever a session was asked
before, a navigation is answered or ends with one of the known faults. Trees have no
permissions, so the lack of one is not among these faults. -/
theorem answers_or_refuses (c : Context) (hsound : c.world.tree.Sound)
    (hsettings : c.settings = {})
    (hbegun : Registry.configuredRoot? c.world.env c.settings.registry = .ok c.registryRoot?)
    {home : String} (hhome : c.world.env.get? "CARGO_HOME" = some home)
    (habsolute : (Path.ofString home).isAbsolute = true) (before : List Inquiry) {i : Inquiry}
    {path : Path} (hstart : i.start? = some path) :
    (∃ answer, (i.query.run c (sessionAfter c before)).1 = .ok answer) ∨
      ∃ fault, (i.query.run c (sessionAfter c before)).1 = .error fault ∧ c.Refuses fault := by
  have hlayout : HasOrdinaryNames c.settings.layout := by
    rw [hsettings]
    exact hasOrdinaryNames_default
  have hroot : Registry.root c.world c.registryRoot? = .ok (Path.ofString home) := by
    have hne : home ≠ "" := by
      rintro rfl
      exact absurd habsolute (by decide)
    rw [hsettings] at hbegun
    have hnone : c.registryRoot? = none := (Except.ok.inj hbegun).symm
    unfold Registry.root
    rw [hnone, hhome]
    exact if_pos hne
  obtain ⟨answer, hanswer, hfails⟩ := foreseen_of_start? hsound hlayout hroot hstart
  have hempty : State.start.caches.Agree c fun _ => True := Caches.agree_empty c _
  have hrun : (i.query.run c (sessionAfter c before)).1 = answer :=
    (hanswer _ (agree_foldl c before hempty)).1
  rw [hrun]
  cases answer with
  | ok found => exact .inl ⟨found, rfl⟩
  | error fault => exact .inr ⟨fault, rfl, hfails fault rfl⟩

def raisedVersion : Context where
  world :=
    { tree := ⟨⟨[(["r"], .directory), (["r", "registry"], .directory),
        (["r", "registry", "src"], .directory), (["r", "registry", "src", "i"], .directory),
        (["r", "registry", "src", "i", "miden-stdlib-1²"], .directory)]⟩⟩
      env := ⟨⟨[("CARGO_HOME", "/r")]⟩, ⟨.slash, []⟩, [], 0⟩ }
  settings := {}
  registryRoot? := none

theorem refuses_raisedVersion :
    ((Query.resolveImport ⟨.slash, ["f.masm"]⟩ "std::m").run raisedVersion .start).1 =
        .error (.notANumber "²") ∧
      raisedVersion.Refuses (.notANumber "²") := by
  have hfault : ((Query.resolveImport ⟨.slash, ["f.masm"]⟩ "std::m").run raisedVersion .start).1 =
      .error (.notANumber "²") := by
    decide +kernel
  refine ⟨hfault, ?_⟩
  have hsound : raisedVersion.world.tree.Sound := by decide +kernel
  have hhome : raisedVersion.world.env.get? "CARGO_HOME" = some "/r" := rfl
  have hstart : (Inquiry.resolveImport ⟨.slash, ["f.masm"]⟩ "std::m").start? =
      some ⟨.slash, ["f.masm"]⟩ := rfl
  rcases answers_or_refuses raisedVersion hsound rfl rfl hhome (by decide) [] hstart with
    ⟨answer, hanswer⟩ | ⟨fault, hrefused, hrefuses⟩
  · cases hfault.symm.trans hanswer
  · cases hfault.symm.trans hrefused
    exact hrefuses

end AsmNavigator.Session
