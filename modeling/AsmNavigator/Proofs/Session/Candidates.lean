import AsmNavigator.Proofs.Files.Place
import AsmNavigator.Proofs.Session.CachedResolver
import AsmNavigator.Proofs.Source.Expression
import AsmNavigator.Proofs.Source.Recognisers
import Mathlib.Data.List.Nodup

/-! # The candidates of an import

All the paths at which the module of an import can stand, in one list. A resolution that
is not refused is the first of them that is a regular file: none of the rules returns
too early, and a directory that is missing only leaves out candidates that are not there.
-/

namespace AsmNavigator

namespace Session

open Config Source Workspace

/-- Directories and index files have plain names, and the extension adds no component. -/
structure IsPlainLayout (layout : Layout) : Prop where
  moduleIndexFile : IsPlainName layout.moduleIndexFile
  libraryDir : IsPlainName layout.libraryDir
  kernelLibDir : IsPlainName layout.kernelLibDir
  sharedModulesDir : IsPlainName layout.sharedModulesDir
  cratesDir : IsPlainName layout.cratesDir
  moduleExtension : '/' ∉ layout.moduleExtension.toList

def listed : Except Fault (List α) → List α
  | .ok items => items
  | .error _ => []

namespace Context

variable (c : Context)

def holdsFile (p : Path) : Bool :=
  match c.world.isFile p with
  | .ok holds => holds
  | .error _ => false

/-! ## The list -/

/-- The two places of a module below a directory: its file, and the index file of its
directory. Without an extension the directory is the one that is searched. -/
def probes (segments : List String) (base : Path) : List Path :=
  let extension := c.settings.layout.moduleExtension
  let stem := if extension = "" then [] else segments
  [base.below (segments.dropLast ++ [segments.getLast?.getD "" ++ extension]),
    base.below (stem ++ [c.settings.layout.moduleIndexFile])]

def subdirectoryProbes (segments : List String) (library : Path) : List Path :=
  (listed (subdirectories c.world library)).flatMap (c.probes segments)

/-- The places in the registry: in every index the versions of a package, newest first. -/
def registryCandidates (package : String) (segments : List String) : List Path :=
  match Registry.root c.world c.registryRoot? with
  | .error _ => []
  | .ok root =>
      (listed (subdirectories c.world (root.below ["registry", "src"]))).flatMap fun indexDir =>
        (listed (Registry.versions c.world package indexDir)).flatMap fun version =>
          c.probes segments (indexDir.below [version, c.settings.layout.libraryDir])

def bindingCandidates (root : Path) (name : String) (segments : List String) : List Path :=
  match c.table root with
  | .error _ => []
  | .ok table =>
      match table.lookup? ("miden::" ++ name) with
      | none => []
      | some entry =>
          c.probes segments (entry.crateDir.below [c.settings.layout.libraryDir] / entry.subdir) ++
            c.subdirectoryProbes segments (entry.crateDir.below [c.settings.layout.libraryDir])

def crateCandidates (root : Path) (name : String) (segments : List String) : List Path :=
  (listed (subdirectories c.world (root.below [c.settings.layout.cratesDir]))).flatMap
    fun crateDir =>
      c.probes segments (crateDir.below [c.settings.layout.libraryDir, name]) ++
        c.subdirectoryProbes segments (crateDir.below [c.settings.layout.libraryDir])

def workspaceCandidates (file : Path) (name : String) (segments : List String) : List Path :=
  match c.workspaceRoot file with
  | .ok (some root) =>
      c.bindingCandidates root name segments ++ c.crateCandidates root name segments
  | _ => []

def projectCandidates (file : Path) (name : String) (segments : List String) : List Path :=
  match c.projectRoot file with
  | .ok (some root) => c.probes segments (root.below [c.settings.layout.libraryDir, name])
  | _ => []

def namespacedCandidates (file : Path) (name : String) (segments : List String) : List Path :=
  match c.externalPackage? name with
  | some package => c.registryCandidates package segments
  | none =>
      c.workspaceCandidates file name segments ++ (c.projectCandidates file name segments ++
        (c.registryCandidates ("miden-" ++ name ++ "-lib") segments ++
          c.registryCandidates ("miden-" ++ name) segments))

/-- The libraries beside a file and above it, each with the shared modules one level up. -/
def aliasCandidates (file : Path) (name : String) : List Path :=
  (file.parent.ancestors c.settings.layout.maxAliasDepth).flatMap fun directory =>
    c.probes [name] (directory.below [c.settings.layout.kernelLibDir]) ++
      c.probes [name] (directory.parent.below [c.settings.layout.sharedModulesDir])

/-- The directory of a file and the one above it, each with its library. -/
def bareCandidates (file : Path) (name : String) : List Path :=
  let lib := c.settings.layout.kernelLibDir
  [file.parent, file.parent.below [lib], file.parent.parent,
    file.parent.parent.below [lib]].flatMap (c.probes [name])

/-- All places at which the module of an import can stand, in the order of the search. -/
def candidates (file : Path) : List String → List Path
  | "miden" :: name :: segment :: rest => c.namespacedCandidates file name (segment :: rest)
  | "std" :: segment :: rest =>
      c.registryCandidates c.settings.registry.stdlibPackage (segment :: rest)
  | head :: rest =>
      if head.toList.head? = some '$' then
        match rest.getLast? with
        | some last => c.aliasCandidates file last
        | none => []
      else if rest.isEmpty then c.bareCandidates file head
      else []
  | [] => []

end Context

/-! ## Searches that find the first file of a list -/

/-- An outcome that is not refused is the first file of the list; `view` reads the path. -/
def Finds (c : Context) (view : β → Path) (outcome : Except Fault (Option β))
    (candidates : List Path) : Prop :=
  ∀ found?, outcome = .ok found? → found?.map view = candidates.find? c.holdsFile

namespace Finds

variable {α β : Type} {c : Context} {view : β → Path}

theorem nothing : Finds c view (.ok none) [] := by
  intro found? h
  cases h
  rfl

theorem refused (fault : Fault) (candidates : List Path) :
    Finds c view (.error fault) candidates := by
  intro found? h
  cases h

theorem orElse {first second : Except Fault (Option β)} {xs ys : List Path}
    (hfirst : Finds c view first xs) (hsecond : Finds c view second ys) :
    Finds c view (Session.orElse first second) (xs ++ ys) := by
  intro found? h
  rw [List.find?_append]
  rcases first with fault | _ | b
  · cases h
  · rw [← hfirst none rfl]
    exact hsecond found? h
  · cases h
    rw [← hfirst (some b) rfl]
    rfl

theorem firstHit {search : α → Except Fault (Option β)} {places : α → List Path}
    (h : ∀ a, Finds c view (search a) (places a)) (items : List α) :
    Finds c view (Workspace.firstHit search items) (items.flatMap places) := by
  induction items with
  | nil => exact nothing
  | cons a rest ih =>
      intro found? hfound
      rw [List.flatMap_cons, List.find?_append]
      unfold Workspace.firstHit at hfound
      rcases hsearch : search a with fault | _ | b
      · rw [hsearch] at hfound
        cases hfound
      · rw [hsearch] at hfound
        rw [← h a none hsearch]
        exact ih found? hfound
      · rw [hsearch] at hfound
        cases hfound
        rw [← h a (some b) hsearch]
        rfl

/-- A search over what is listed; a refused listing refuses the search. -/
theorem firstHit_listed {search : α → Except Fault (Option β)} {places : α → List Path}
    (h : ∀ a, Finds c view (search a) (places a)) (items : Except Fault (List α)) :
    Finds c view (do Workspace.firstHit search (← items)) ((listed items).flatMap places) := by
  cases items with
  | error fault => exact refused fault _
  | ok items => exact firstHit h items

/-- A search that is made only under a condition without which its places hold nothing. -/
theorem guarded {condition : Except Fault Bool} {search : Except Fault (Option β)}
    {places : List Path} (h : Finds c view search places)
    (hempty : condition = .ok false → places.find? c.holdsFile = none) :
    Finds c view (do if ← condition then search else return none) places := by
  intro found? hfound
  rcases condition with fault | _ | _
  · cases hfound
  · cases hfound
    exact (hempty rfl).symm
  · exact h found? hfound

theorem viewed {outcome : Except Fault (Option β)} {places : List Path}
    (h : Finds c view outcome places) :
    Finds c id (do return (← outcome).map view) places := by
  intro found? hfound
  cases outcome with
  | error fault => cases hfound
  | ok hit? =>
      cases hfound
      rw [← h hit? rfl, Option.map_id]
      rfl

end Finds

variable {c : Context}

theorem holdsFile_iff {p : Path} : c.holdsFile p = true ↔ c.world.isFile p = .ok true := by
  unfold Context.holdsFile
  cases c.world.isFile p <;> simp

/-! ## Modules below a directory -/

theorem modulePath?_cons (extension segment : String) (rest : List String) :
    modulePath? extension (segment :: rest) = some (String.intercalate "/"
      ((segment :: rest).dropLast ++ [(segment :: rest).getLast (by simp) ++ extension])) := by
  unfold modulePath?
  rw [List.getLast?_eq_some_getLast (List.cons_ne_nil _ _)]

theorem intercalate_dropLast {segments : List String} {last : String}
    (hlast : segments.getLast? = some last) (extension : String) :
    String.intercalate "/" (segments.dropLast ++ [last ++ extension]) =
      String.intercalate "/" segments ++ extension := by
  obtain ⟨init, rfl⟩ := List.getLast?_eq_some_iff.mp hlast
  cases init with
  | nil => simp
  | cons first rest =>
      rw [List.dropLast_concat, String.intercalate_append_of_ne_nil (by simp) (by simp),
        String.intercalate_append_of_ne_nil (by simp) (by simp)]
      simp [String.append_assoc]

/-- The stem of a module path joins the segments, unless there is no extension. -/
theorem moduleStem_intercalate {segments : List String} {last : String}
    (hlast : segments.getLast? = some last) (extension : String) :
    moduleStem extension
      (String.intercalate "/" (segments.dropLast ++ [last ++ extension])) =
      if extension = "" then "" else String.intercalate "/" segments := by
  unfold moduleStem
  rw [intercalate_dropLast hlast, String.toList_append, Text.dropSuffix?_append]
  simp only [String.ofList_toList, String.isEmpty_iff]

theorem finds_findModule (direct indexed : Path) {extension indexFile subPath : String}
    {base : Path} (hdirect : base / subPath = direct)
    (hindexed : base / moduleStem extension subPath / indexFile = indexed) :
    Finds c id (findModule c.world extension indexFile base subPath) [direct, indexed] := by
  intro found? h
  unfold findModule at h
  simp only [hdirect, hindexed] at h
  simp only [List.find?_cons, List.find?_nil]
  unfold Context.holdsFile
  rcases hfirst : c.world.isFile direct with fault | _ | _
  · rw [hfirst] at h
    cases h
  · rw [hfirst] at h
    rcases hsecond : c.world.isFile indexed with fault | _ | _
    · rw [hsecond] at h
      cases h
    · rw [hsecond] at h
      cases h
      rfl
    · rw [hsecond] at h
      cases h
      rfl
  · rw [hfirst] at h
    cases h
    rfl

/-- The two paths at which the module of some identifiers stands below a directory. -/
theorem paths_of_modulePath {extension indexFile : String} (hindex : IsPlainName indexFile)
    (hextension : '/' ∉ extension.toList) {segments : List String}
    (hsegments : ∀ segment ∈ segments, IsIdent segment.toList) {subPath : String}
    (h : modulePath? extension segments = some subPath) (base : Path) :
    base / subPath =
        base.below (segments.dropLast ++ [segments.getLast?.getD "" ++ extension]) ∧
      base / moduleStem extension subPath / indexFile =
        base.below ((if extension = "" then [] else segments) ++ [indexFile]) := by
  unfold modulePath? at h
  cases hlast : segments.getLast? with
  | none => simp [hlast] at h
  | some last =>
      simp only [hlast, Option.some.injEq] at h
      have hmem : last ∈ segments := List.mem_of_getLast? hlast
      have hplain : ∀ part ∈ segments, IsPlainName part :=
        fun part hpart => (hsegments part hpart).isPlainName
      rw [Option.getD_some, ← h]
      constructor
      · apply Path.div_intercalate base (by simp)
        intro part hpart
        rcases List.mem_append.mp hpart with hpart | hpart
        · exact hplain part ((List.dropLast_sublist _).subset hpart)
        · rw [List.mem_singleton.mp hpart]
          exact (hsegments last hmem).isPlainName_append hextension
      · rw [moduleStem_intercalate hlast]
        split
        · rw [Path.div_empty, Path.div_plain _ hindex, Path.below_below]
        · rw [Path.div_intercalate base (List.ne_nil_of_mem hmem) hplain,
            Path.div_plain _ hindex, Path.below_below]

/-- The module of some identifiers below a directory. -/
theorem finds_moduleBelow (hlayout : IsPlainLayout c.settings.layout) {segments : List String}
    (hsegments : ∀ segment ∈ segments, IsIdent segment.toList) {subPath : String}
    (h : modulePath? c.settings.layout.moduleExtension segments = some subPath) (base : Path) :
    Finds c id (c.moduleBelow base subPath) (c.probes segments base) := by
  obtain ⟨hdirect, hindexed⟩ := paths_of_modulePath hlayout.moduleIndexFile
    hlayout.moduleExtension hsegments h base
  exact finds_findModule _ _ hdirect hindexed

/-! ## Directories that are missing -/

theorem isDirectory_of_holdsFile {base : Path} {part : String} {rest : List String}
    (h : c.holdsFile (base.below (part :: rest)) = true) :
    c.world.isDirectory base = .ok true := by
  obtain ⟨bytes, hstat⟩ := FileTree.isFile_iff.mp (holdsFile_iff.mp h)
  exact FileTree.isDirectory_iff.mpr (FileTree.stat_directory_of_below hstat)

/-- Below what is no directory no probe succeeds. -/
theorem find?_probes_of_not_directory {base : Path} (h : c.world.isDirectory base = .ok false)
    (segments : List String) : (c.probes segments base).find? c.holdsFile = none := by
  rw [List.find?_eq_none]
  intro p hp hfile
  have hbelow : ∃ part rest, p = base.below (part :: rest) := by
    simp only [Context.probes, List.mem_cons, List.not_mem_nil, or_false] at hp
    have hcons : ∀ (parts : List String) (last : String),
        ∃ part rest, base.below (parts ++ [last]) = base.below (part :: rest) := by
      intro parts last
      cases parts with
      | nil => exact ⟨last, [], rfl⟩
      | cons part rest => exact ⟨part, rest ++ [last], rfl⟩
    rcases hp with rfl | rfl
    · exact hcons _ _
    · exact hcons _ _
  obtain ⟨part, rest, rfl⟩ := hbelow
  rw [isDirectory_of_holdsFile hfile] at h
  cases h

/-- Nothing is listed in what is no directory. -/
theorem listed_subdirectories_of_not_directory {p : Path}
    (h : c.world.isDirectory p = .ok false) : listed (subdirectories c.world p) = [] := by
  have hlist : ∀ names, c.world.list p ≠ .ok names := by
    intro names hnames
    obtain ⟨hexpressible, place, hwalk, hnode, -⟩ := FileTree.list_ok_iff.mp hnames
    have htrue : c.world.isDirectory p = .ok true :=
      FileTree.isDirectory_iff.mpr (FileTree.stat_ok_iff.mpr ⟨hexpressible, place, hwalk, hnode⟩)
    rw [htrue] at h
    cases h
  unfold subdirectories
  cases hnames : c.world.list p with
  | ok names => exact absurd hnames (hlist names)
  | error fault => cases fault <;> rfl

/-! ## The rules -/

def Context.packageModule (c : Context) (package subPath : String) (sources : Path) :
    Except Fault (Option (String × Path)) := do
  firstHit (Registry.findInIndex c.world c.settings.layout package subPath)
    (← subdirectories c.world sources)

theorem registryModule_eq (package subPath : String) :
    c.registryModule package subPath = (do
      let sources := (← Registry.root c.world c.registryRoot?).below ["registry", "src"]
      if ← c.world.isDirectory sources then
        return (← c.packageModule package subPath sources).map Prod.snd
      else return none) := by
  unfold Context.registryModule Registry.find
  cases Registry.root c.world c.registryRoot? with
  | error fault => rfl
  | ok root =>
      have hsources : root / "registry" / "src" = root.below ["registry", "src"] := by
        rw [Path.div_plain _ ⟨by decide, by decide, by decide, by decide⟩,
          Path.div_plain _ ⟨by decide, by decide, by decide, by decide⟩, Path.below_below]
        rfl
      simp only [hsources, Context.packageModule, bind, Except.bind, pure, Except.pure]
      rcases c.world.isDirectory (root.below ["registry", "src"]) with fault | _ | _
      · rfl
      · rfl
      · cases subdirectories c.world (root.below ["registry", "src"]) with
        | error fault => rfl
        | ok indexes =>
            simp only
            rcases firstHit (Registry.findInIndex c.world c.settings.layout package subPath)
              indexes with fault | _ | hit <;> rfl

def sourcesOf (root : Path) : Path := root.below ["registry", "src"]

theorem registryModule_of_root {root : Path}
    (hroot : Registry.root c.world c.registryRoot? = .ok root) (package subPath : String) :
    c.registryModule package subPath = (do
      if ← c.world.isDirectory (sourcesOf root) then
        return (← c.packageModule package subPath (sourcesOf root)).map Prod.snd
      else return none) := by
  rw [registryModule_eq, hroot]
  simp only [bind, Except.bind, sourcesOf]

section Rules

variable (hlayout : IsPlainLayout c.settings.layout) {segments : List String} {subPath : String}
  (hsegments : ∀ segment ∈ segments, IsIdent segment.toList)
  (h : modulePath? c.settings.layout.moduleExtension segments = some subPath)

include hlayout hsegments h

theorem finds_moduleInSubdirectories (library : Path) :
    Finds c id (c.moduleInSubdirectories library subPath)
      (c.subdirectoryProbes segments library) :=
  .firstHit_listed (finds_moduleBelow hlayout hsegments h) _

theorem finds_moduleOfNamespace (entry : NamespaceEntry) :
    Finds c id (c.moduleOfNamespace entry subPath)
      (c.probes segments (entry.crateDir.below [c.settings.layout.libraryDir] / entry.subdir) ++
        c.subdirectoryProbes segments (entry.crateDir.below [c.settings.layout.libraryDir])) := by
  unfold Context.moduleOfNamespace NamespaceEntry.libraryDir
  rw [Path.div_plain _ hlayout.libraryDir]
  exact (finds_moduleBelow hlayout hsegments h _).orElse
    (finds_moduleInSubdirectories hlayout hsegments h _)

theorem finds_moduleOfCrate {name : String} (hname : IsPlainName name) (crateDir : Path) :
    Finds c id (c.moduleOfCrate name subPath crateDir)
      (c.probes segments (crateDir.below [c.settings.layout.libraryDir, name]) ++
        c.subdirectoryProbes segments (crateDir.below [c.settings.layout.libraryDir])) := by
  unfold Context.moduleOfCrate
  rw [Path.div_plain _ hlayout.libraryDir, Path.div_plain _ hname, Path.below_below]
  exact (finds_moduleBelow hlayout hsegments h _).orElse
    (finds_moduleInSubdirectories hlayout hsegments h _)

theorem finds_moduleInWorkspace {name : String} (hname : IsPlainName name) (root : Path) :
    Finds c id (c.moduleInWorkspace root name subPath)
      (c.bindingCandidates root name segments ++ c.crateCandidates root name segments) := by
  unfold Context.moduleInWorkspace Context.bindingCandidates
  cases c.table root with
  | error fault => exact .refused fault _
  | ok table =>
      refine Finds.orElse ?_ ?_
      · show Finds c id (c.moduleDeclared (table.lookup? ("miden::" ++ name)) subPath) _
        simp only
        cases table.lookup? ("miden::" ++ name) with
        | none => exact .nothing
        | some entry => exact finds_moduleOfNamespace hlayout hsegments h entry
      · unfold Context.moduleInCrates Context.crateCandidates
        rw [Path.div_plain _ hlayout.cratesDir]
        exact .firstHit_listed (finds_moduleOfCrate hlayout hsegments h hname) _

theorem finds_moduleInWorkspaceOf {name : String} (hname : IsPlainName name) (file : Path) :
    Finds c id (c.moduleInWorkspaceOf file name subPath)
      (c.workspaceCandidates file name segments) := by
  unfold Context.moduleInWorkspaceOf Context.workspaceCandidates
  cases c.workspaceRoot file with
  | error fault => exact .refused fault _
  | ok root? =>
      cases root? with
      | none => exact .nothing
      | some root =>
          simp only [bind, Except.bind]
          exact finds_moduleInWorkspace hlayout hsegments h hname root

theorem finds_moduleInProject {name : String} (hname : IsPlainName name) (file : Path) :
    Finds c id (c.moduleInProject file name subPath)
      (c.projectCandidates file name segments) := by
  unfold Context.moduleInProject Context.projectCandidates
  cases c.projectRoot file with
  | error fault => exact .refused fault _
  | ok root? =>
      cases root? with
      | none => exact .nothing
      | some root =>
          simp only [bind, Except.bind]
          rw [Path.div_plain _ hlayout.libraryDir, Path.div_plain _ hname, Path.below_below]
          exact finds_moduleBelow hlayout hsegments h _

theorem finds_findInIndex (package : String) (indexDir : Path) :
    Finds c Prod.snd
      (Registry.findInIndex c.world c.settings.layout package subPath indexDir)
      ((listed (Registry.versions c.world package indexDir)).flatMap fun version =>
        c.probes segments (indexDir.below [version, c.settings.layout.libraryDir])) := by
  refine Finds.firstHit_listed (fun version => ?_) _
  intro found? hfound
  have hbase : indexDir / Path.relative [version] / c.settings.layout.libraryDir =
      indexDir.below [version, c.settings.layout.libraryDir] := by
    rw [Path.div_relative, Path.div_plain _ hlayout.libraryDir, Path.below_below]
    rfl
  simp only [hbase] at hfound
  have hbelow := finds_moduleBelow hlayout hsegments h
    (indexDir.below [version, c.settings.layout.libraryDir])
  unfold Context.moduleBelow at hbelow
  generalize findModule c.world _ _ _ subPath = outcome at hfound hbelow
  cases outcome with
  | error fault => cases hfound
  | ok path? =>
      cases hfound
      rw [← hbelow path? rfl]
      cases path? <;> rfl

/-- The registry is searched only if it is there; if not, it lists nothing. -/
theorem finds_registryModule (package : String) :
    Finds c id (c.registryModule package subPath) (c.registryCandidates package segments) := by
  rw [registryModule_eq]
  unfold Context.registryCandidates
  cases Registry.root c.world c.registryRoot? with
  | error fault => exact .refused fault _
  | ok root =>
      refine Finds.guarded ?_ ?_
      · exact (Finds.firstHit_listed (finds_findInIndex hlayout hsegments h package) _).viewed
      · intro hmissing
        simp only [listed_subdirectories_of_not_directory hmissing]
        rfl

theorem finds_namespaced {name : String} (hname : IsPlainName name) (file : Path) :
    Finds c id (c.namespaced file name segments) (c.namespacedCandidates file name segments) := by
  unfold Context.namespaced Context.namespacedCandidates
  rw [h]
  cases c.externalPackage? name with
  | some package => exact finds_registryModule hlayout hsegments h package
  | none =>
      exact (finds_moduleInWorkspaceOf hlayout hsegments h hname file).orElse
        ((finds_moduleInProject hlayout hsegments h hname file).orElse
          ((finds_registryModule hlayout hsegments h _).orElse
            (finds_registryModule hlayout hsegments h _)))

theorem finds_stdlib :
    Finds c id (c.stdlib segments)
      (c.registryCandidates c.settings.registry.stdlibPackage segments) := by
  unfold Context.stdlib
  rw [h]
  exact finds_registryModule hlayout hsegments h _

end Rules

section Shapes

variable (hlayout : IsPlainLayout c.settings.layout)

include hlayout

theorem finds_moduleIfDirectory {name : String} (hname : IsIdent name.toList) (directory : Path) :
    Finds c id (c.moduleIfDirectory (name ++ c.settings.layout.moduleExtension) directory)
      (c.probes [name] directory) := by
  refine Finds.guarded (finds_moduleBelow hlayout (by simpa using hname) ?_ directory)
    fun hmissing => find?_probes_of_not_directory hmissing [name]
  simp [modulePath?]

theorem finds_aliased {segments : List String}
    (hsegments : ∀ segment ∈ segments, IsIdent segment.toList) (file : Path) :
    Finds c id (c.aliased file segments)
      (match segments.getLast? with
      | some last => c.aliasCandidates file last
      | none => []) := by
  unfold Context.aliased
  cases hlast : segments.getLast? with
  | none => exact .nothing
  | some last =>
      have hident := hsegments last (List.mem_of_getLast? hlast)
      refine Finds.firstHit (fun directory => ?_) _
      rw [Path.div_plain _ hlayout.kernelLibDir, Path.div_plain _ hlayout.sharedModulesDir]
      exact (finds_moduleIfDirectory hlayout hident _).orElse
        (finds_moduleIfDirectory hlayout hident _)

theorem finds_bare {name : String} (hname : IsIdent name.toList) (file : Path) :
    Finds c id (c.bare file name) (c.bareCandidates file name) := by
  unfold Context.bare Context.bareBases Context.bareCandidates
  rw [Path.div_plain _ hlayout.kernelLibDir, Path.div_plain _ hlayout.kernelLibDir]
  refine Finds.firstHit (finds_moduleBelow hlayout (by simpa using hname) ?_) _
  simp [modulePath?]

/-- The rule that the shape of an expression selects searches its candidates. -/
theorem finds_byRule {segments : List String} (hsegments : AreSegments segments) (file : Path) :
    Finds c id (c.byRule file (ImportRule.ofSegments segments)) (c.candidates file segments) := by
  fun_cases Context.candidates c file segments with
  | case1 name segment rest =>
      cases hsegments with
      | cons _ hrest =>
          refine finds_namespaced hlayout (fun s hs => hrest s (List.mem_cons_of_mem _ hs))
            (modulePath?_cons _ segment rest) (hrest name (by simp)).isPlainName file
  | case2 segment rest =>
      cases hsegments with
      | cons _ hrest => exact finds_stdlib hlayout hrest (modulePath?_cons _ segment rest)
  | case3 head rest hmiden hstd hdollar last hlast =>
      cases hsegments with
      | cons _ hrest =>
          have hsearch := finds_aliased hlayout hrest file
          rw [hlast] at hsearch
          rw [ImportRule.ofSegments.eq_3 head rest hmiden hstd, if_pos hdollar]
          exact hsearch
  | case4 head rest hmiden hstd hdollar hlast =>
      cases hsegments with
      | cons _ hrest =>
          have hsearch := finds_aliased hlayout hrest file
          rw [hlast] at hsearch
          rw [ImportRule.ofSegments.eq_3 head rest hmiden hstd, if_pos hdollar]
          exact hsearch
  | case5 head rest hmiden hstd hdollar hempty =>
      cases hsegments with
      | cons hhead _ =>
          rw [ImportRule.ofSegments.eq_3 head rest hmiden hstd, if_neg hdollar, if_pos hempty]
          exact finds_bare hlayout (hhead.isIdent hdollar) file
  | case6 head rest hmiden hstd hdollar hmore =>
      rw [ImportRule.ofSegments.eq_3 head rest hmiden hstd, if_neg hdollar, if_neg hmore]
      exact .nothing
  | case7 => exact .nothing

end Shapes

theorem resolution_eq_first_candidate (hlayout : IsPlainLayout c.settings.layout) {file : Path}
    {segments : List String} (hsegments : AreSegments segments) {resolved? : Option Path}
    (h : c.resolution file (joinSegments segments) = .ok resolved?) :
    resolved? = ((c.candidates file segments).find? c.holdsFile).map Path.normalize := by
  have hrule := finds_byRule hlayout hsegments file
  unfold Context.resolution ImportRule.ofExpression at h
  rw [hsegments.split_join] at h
  cases houtcome : c.byRule file (ImportRule.ofSegments segments) with
  | error fault =>
      rw [houtcome] at h
      cases h
  | ok found? =>
      rw [houtcome] at h
      cases h
      rw [← hrule found? houtcome, Option.map_id]
      rfl

/-- A session that has just begun and is not refused resolves an import to the first of its
candidates that is a regular file, in normal form. Without symbolic links it is a regular
file there too. -/
theorem resolve_eq_first_candidate (c : Context) (hlayout : IsPlainLayout c.settings.layout)
    (file : Path) (localName : String) {segments : List String} (hsegments : AreSegments segments)
    {resolved? : Option Path}
    (h : ((Query.resolve file localName (joinSegments segments)).run c .start).1 =
      .ok resolved?) :
    resolved? = ((c.candidates file segments).find? c.holdsFile).map Path.normalize ∧
      (c.world.tree.IsLinkFree →
        ∀ target, resolved? = some target → c.holdsFile target = true) := by
  have hfirst := resolution_eq_first_candidate hlayout hsegments
    ((freshResolution_eq file localName _).symm.trans h)
  refine ⟨hfirst, ?_⟩
  intro hlinks target htarget
  rw [hfirst] at htarget
  obtain ⟨path, hpath, rfl⟩ := Option.map_eq_some_iff.mp htarget
  have hfile := holdsFile_iff.mp (List.find?_some hpath)
  exact holdsFile_iff.mpr (FileTree.isFile_normalize hfile hlinks.not_leavesLink)

/-- A workspace with one crate, which holds a module of a namespace that no build script binds. -/
def crateWorkspace : Context where
  world :=
    { tree := ⟨⟨[(["w"], .directory), (["w", "Cargo.toml"], .file "[workspace]\n".toUTF8),
        (["w", "crates"], .directory), (["w", "crates", "k"], .directory),
        (["w", "crates", "k", "asm"], .directory), (["w", "crates", "k", "asm", "ns"], .directory),
        (["w", "crates", "k", "asm", "ns", "m.masm"], .file .empty)]⟩⟩
      env := ⟨.empty, ⟨.slash, []⟩, [], 0⟩ }
  settings := {}
  registryRoot? := none

theorem isPlainLayout_default : IsPlainLayout {} := by
  refine ⟨?_, ?_, ?_, ?_, ?_, by decide⟩ <;> exact ⟨by decide, by decide, by decide, by decide⟩

theorem resolve_crateWorkspace :
    let target : Path := ⟨.slash, ["w", "crates", "k", "asm", "ns", "m.masm"]⟩
    crateWorkspace.world.tree.IsLinkFree ∧ IsPlainLayout crateWorkspace.settings.layout ∧
      AreSegments ["miden", "ns", "m"] ∧
      ((Query.resolve ⟨.slash, ["w", "x.masm"]⟩ "m" (joinSegments ["miden", "ns", "m"])).run
        crateWorkspace .start).1 = .ok (some target) ∧
      some target = ((crateWorkspace.candidates ⟨.slash, ["w", "x.masm"]⟩
        ["miden", "ns", "m"]).find? crateWorkspace.holdsFile).map Path.normalize ∧
      crateWorkspace.holdsFile target = true := by
  have hlinks : crateWorkspace.world.tree.IsLinkFree := by decide
  have hsegments : AreSegments ["miden", "ns", "m"] := by
    refine .cons ⟨'m', "iden".toList, rfl, by decide, List.all_eq_true.mp (by decide)⟩ ?_
    intro segment hsegment
    simp only [List.mem_cons, List.not_mem_nil, or_false] at hsegment
    rcases hsegment with rfl | rfl
    · exact ⟨'n', ['s'], rfl, by decide, List.all_eq_true.mp (by decide)⟩
    · exact ⟨'m', [], rfl, by decide, by simp⟩
  have hrun : ((Query.resolve ⟨.slash, ["w", "x.masm"]⟩ "m"
      (joinSegments ["miden", "ns", "m"])).run crateWorkspace .start).1 =
        .ok (some ⟨.slash, ["w", "crates", "k", "asm", "ns", "m.masm"]⟩) := by
    decide +kernel
  obtain ⟨hfirst, hfile⟩ :=
    resolve_eq_first_candidate crateWorkspace isPlainLayout_default _ _ hsegments hrun
  exact ⟨hlinks, isPlainLayout_default, hsegments, hrun, hfirst, hfile hlinks _ rfl⟩

end Session

end AsmNavigator
