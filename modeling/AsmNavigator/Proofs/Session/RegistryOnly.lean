import AsmNavigator.Proofs.Files.Subtree
import AsmNavigator.Proofs.Registry.Versions
import AsmNavigator.Proofs.Session.Dependence
import AsmNavigator.Proofs.Session.ResolvedFile

/-! # Imports that the registry alone serves

The standard library and the external namespaces are looked for in the sources of the
registry and nowhere else. Of all files only those below the sources decide about the
answer, and a module that is found lies in the library of a version of the package. What
else stands on the disk shows in one case: a name on the way to the sources is too long
for any file, and what is there decides whether the name is looked at.
-/

namespace AsmNavigator

namespace Path

/-- What lies below a path lies below its normal form. -/
theorem normalize_below (p : Path) {parts : List String} (h : ".." ∉ parts) :
    (p.below parts).normalize = p.normalize.below parts := by
  have hparts : ((p.parts ++ parts).foldl (pushPart p.isAbsolute) []).reverse =
      (p.parts.foldl (pushPart p.isAbsolute) []).reverse ++ parts := by
    rw [List.foldl_append, foldl_pushPart_of_not_mem h]
    simp
  exact congrArg (Path.mk p.root) hparts

end Path

namespace Session

open Config Source Workspace

/-- Library and index file have plain names, and the extension adds no component. -/
structure HasPlainModules (layout : Layout) : Prop where
  moduleIndexFile : IsPlainName layout.moduleIndexFile
  libraryDir : IsPlainName layout.libraryDir
  moduleExtension : '/' ∉ layout.moduleExtension.toList

/-- The package that alone serves the import with some segments, and the segments of the
module in it. -/
inductive ServedBy (c : Context) : List String → String → List String → Prop where
  | stdlib (segment : String) (rest : List String) :
      ServedBy c ("std" :: segment :: rest) c.settings.registry.stdlibPackage (segment :: rest)
  | external (name segment : String) (rest : List String) {package : String} :
      c.settings.registry.externalNamespaces.get? name = some package → package ≠ "" →
      ServedBy c ("miden" :: name :: segment :: rest) package (segment :: rest)

variable {c : Context}

/-- An import that the registry alone serves is resolved by a search for its package. -/
theorem ServedBy.resolution_eq {segments modulePart : List String} {package : String}
    (h : ServedBy c segments package modulePart)
    (hsegments : ∀ segment ∈ segments, IsIdent segment.toList) :
    ∃ subPath, modulePath? c.settings.layout.moduleExtension modulePart = some subPath ∧
      ∀ file, c.resolution file (joinSegments segments) = (do
        return (← c.registryModule package subPath).map Path.normalize) := by
  have hsplit : splitSegments (joinSegments segments) = segments := by
    apply splitSegments_joinSegments (by cases h <;> simp)
    intro segment hsegment
    exact (hsegments segment hsegment).not_mem (by decide)
  unfold Context.resolution ImportRule.ofExpression
  rw [hsplit]
  cases h with
  | stdlib segment rest =>
      refine ⟨_, modulePath?_cons _ segment rest, fun file => ?_⟩
      simp only [ImportRule.ofSegments, Context.byRule, Context.stdlib, modulePath?_cons]
  | external name segment rest hget hne =>
      refine ⟨_, modulePath?_cons _ segment rest, fun file => ?_⟩
      have hexternal : c.externalPackage? name = some package := by
        unfold Context.externalPackage?
        rw [hget, Option.filter_some, if_pos (by simpa using hne)]
      simp only [ImportRule.ofSegments, Context.byRule, Context.namespaced, modulePath?_cons,
        hexternal]

/-- The two paths of a module below a directory, and that neither climbs. -/
theorem paths_below_of_modulePath {layout : Layout} (hlayout : HasPlainModules layout)
    {segments : List String} (hsegments : ∀ segment ∈ segments, IsIdent segment.toList)
    {subPath : String} (h : modulePath? layout.moduleExtension segments = some subPath) :
    ∃ direct indexed, direct ≠ [] ∧ ".." ∉ direct ∧ indexed ≠ [] ∧ ".." ∉ indexed ∧
      ∀ base : Path, base / subPath = base.below direct ∧
        base / moduleStem layout.moduleExtension subPath / layout.moduleIndexFile =
          base.below indexed := by
  have hup : ∀ segment ∈ segments, segment ≠ ".." :=
    fun segment hsegment => (hsegments segment hsegment).isPlainName.notUp
  refine ⟨_, _, ?_, ?_, ?_, ?_, fun base =>
    paths_of_modulePath hlayout.moduleIndexFile hlayout.moduleExtension hsegments h base⟩
  · simp
  · intro hmem
    rcases List.mem_append.mp hmem with hmem | hmem
    · exact hup _ ((List.dropLast_sublist _).subset hmem) rfl
    · cases hlast : segments.getLast? with
      | none =>
          rw [modulePath?, hlast] at h
          cases h
      | some last =>
          rw [hlast, Option.getD_some] at hmem
          have hplain := (hsegments last (List.mem_of_getLast? hlast)).isPlainName_append
            hlayout.moduleExtension
          exact hplain.notUp (List.mem_singleton.mp hmem).symm
  · simp
  · intro hmem
    rcases List.mem_append.mp hmem with hmem | hmem
    · split at hmem
      · cases hmem
      · exact hup _ hmem rfl
    · exact hlayout.moduleIndexFile.notUp (List.mem_singleton.mp hmem).symm

theorem libraryOfVersion_eq {layout : Layout} (hlayout : HasPlainModules layout) (top : Path)
    (index version : String) :
    top.below [index] / Path.relative [version] / layout.libraryDir =
      top.below [index, version, layout.libraryDir] := by
  rw [Path.div_relative, Path.div_plain _ hlayout.libraryDir, Path.below_below, Path.below_below]
  rfl

/-! ## The same sources in two file systems -/

theorem ne_up_of_mem_list (h : c.world.tree.Sound) {p : Path} {names : List String}
    (hlist : c.world.list p = .ok names) {name : String} (hname : name ∈ names) : name ≠ ".." := by
  obtain ⟨-, place, -, -, rfl⟩ := FileTree.list_ok_iff.mp hlist
  exact (h.names (FileTree.mem_namesIn.mp hname) name (by simp)).1

section Over

variable {other : FileTree} {top : Path} (hsound : c.world.tree.Sound)
  (hagree : c.world.tree.AgreeBelow other c.world.env.cwd top)
  (htop : c.world.isDirectory top = .ok true)

include hagree htop

theorem isFile_over {parts : List String} (hparts : ".." ∉ parts) :
    c.world.isFile (top.below parts) = (c.over other).world.isFile (top.below parts) :=
  hagree.isFile_eq (FileTree.isDirectory_iff.mp htop) hparts

theorem isDirectory_over {parts : List String} (hparts : ".." ∉ parts) :
    c.world.isDirectory (top.below parts) = (c.over other).world.isDirectory (top.below parts) :=
  hagree.isDirectory_eq (FileTree.isDirectory_iff.mp htop) hparts

theorem list_over {parts : List String} (hparts : ".." ∉ parts) :
    c.world.list (top.below parts) = (c.over other).world.list (top.below parts) :=
  hagree.list_eq (FileTree.isDirectory_iff.mp htop) hparts

theorem findModule_over (hlayout : HasPlainModules c.settings.layout) {segments : List String}
    (hsegments : ∀ segment ∈ segments, IsIdent segment.toList) {subPath : String}
    (h : modulePath? c.settings.layout.moduleExtension segments = some subPath)
    {parts : List String} (hparts : ".." ∉ parts) :
    findModule c.world c.settings.layout.moduleExtension c.settings.layout.moduleIndexFile
        (top.below parts) subPath =
      findModule (c.over other).world c.settings.layout.moduleExtension
        c.settings.layout.moduleIndexFile (top.below parts) subPath := by
  obtain ⟨direct, indexed, -, hdirect, -, hindexed, hbelow⟩ :=
    paths_below_of_modulePath hlayout hsegments h
  obtain ⟨hfirst, hsecond⟩ := hbelow (top.below parts)
  rw [Path.below_below] at hfirst hsecond
  have hdown : ".." ∉ parts ++ direct := by simp [hparts, hdirect]
  have hdown' : ".." ∉ parts ++ indexed := by simp [hparts, hindexed]
  have hsame := isFile_over hagree htop hdown
  have hsame' := isFile_over hagree htop hdown'
  unfold findModule
  simp only [hfirst, hsecond, hsame, hsame']

theorem versions_over (package : String) {parts : List String} (hparts : ".." ∉ parts) :
    Registry.versions c.world package (top.below parts) =
      Registry.versions (c.over other).world package (top.below parts) := by
  unfold Registry.versions
  rw [list_over hagree htop hparts]

include hsound

theorem subdirectories_over {parts : List String} (hparts : ".." ∉ parts) :
    subdirectories c.world (top.below parts) =
      subdirectories (c.over other).world (top.below parts) := by
  unfold subdirectories
  rw [← list_over hagree htop hparts]
  refine congrArg (orOnRefusal []) (bind_congr_of_ok fun names hlist => ?_)
  have hchildren : (names.filterM fun name =>
        c.world.isDirectory (top.below parts / Path.relative [name])) =
      names.filterM fun name =>
        (c.over other).world.isDirectory (top.below parts / Path.relative [name]) := by
    refine filterM_congr fun name hname => ?_
    have hup := ne_up_of_mem_list hsound hlist hname
    rw [Path.div_relative, Path.below_below]
    exact isDirectory_over hagree htop (by simp [hparts, Ne.symm hup])
  rw [hchildren]

theorem findInIndex_over (hlayout : HasPlainModules c.settings.layout) {segments : List String}
    (hsegments : ∀ segment ∈ segments, IsIdent segment.toList) {subPath : String}
    (h : modulePath? c.settings.layout.moduleExtension segments = some subPath)
    (package : String) {index : String} (hindex : index ≠ "..") :
    Registry.findInIndex c.world c.settings.layout package subPath (top.below [index]) =
      Registry.findInIndex (c.over other).world c.settings.layout package subPath
        (top.below [index]) := by
  unfold Registry.findInIndex
  rw [← versions_over hagree htop package (by simpa using Ne.symm hindex)]
  refine bind_congr_of_ok fun versions hfound => firstHit_congr fun version hversion => ?_
  obtain ⟨names, hlist, hname, -⟩ := Registry.holdsVersion_of_mem hfound hversion
  have hversionUp := ne_up_of_mem_list hsound hlist hname
  have hlibrary : ".." ∉ [index, version, c.settings.layout.libraryDir] := by
    simp [Ne.symm hindex, Ne.symm hversionUp, Ne.symm hlayout.libraryDir.notUp]
  have hsame := findModule_over hagree htop hlayout hsegments h hlibrary
  simp only [libraryOfVersion_eq hlayout, hsame]

theorem packageModule_over (hlayout : HasPlainModules c.settings.layout) {segments : List String}
    (hsegments : ∀ segment ∈ segments, IsIdent segment.toList) {subPath : String}
    (h : modulePath? c.settings.layout.moduleExtension segments = some subPath)
    (package : String) :
    c.packageModule package subPath top = (c.over other).packageModule package subPath top := by
  have hindexes := subdirectories_over hsound hagree htop (List.not_mem_nil (a := ".."))
  rw [Path.below_nil] at hindexes
  unfold Context.packageModule
  rw [← hindexes]
  refine bind_congr_of_ok fun indexes hfound => firstHit_congr fun indexDir hindexDir => ?_
  obtain ⟨names, index, hlist, hname, rfl, -⟩ := exists_of_mem_subdirectories hfound hindexDir
  exact findInIndex_over hsound hagree htop hlayout hsegments h package
    (ne_up_of_mem_list hsound hlist hname)

end Over

/-- The sources of a registry are needed under a name that is too long for a file. -/
def NeedsLongName (c : Context) (root : Path) : Prop :=
  ∃ part ∈ FileTree.fromTop c.world.env.cwd (sourcesOf root),
    FileTree.nameLimit < Text.nameSize part

/-- How a search ends that does not see the sources: it finds nothing or is refused. -/
def IsWithoutSources (root : Path) (outcome : Except Fault (Option Path)) : Prop :=
  outcome = .ok none ∨ outcome = .error (.os .nameTooLong (sourcesOf root).toString)

theorem registryModule_of_no_sources {root : Path}
    (hroot : Registry.root c.world c.registryRoot? = .ok root)
    (h : c.world.isDirectory (sourcesOf root) ≠ .ok true) (package subPath : String) :
    c.registryModule package subPath =
      (c.world.isDirectory (sourcesOf root)).map fun _ => none := by
  rw [registryModule_of_root hroot]
  rcases hdirectory : c.world.isDirectory (sourcesOf root) with fault | _ | _
  · rfl
  · rfl
  · exact absurd hdirectory h

theorem isWithoutSources_registryModule {root : Path}
    (hroot : Registry.root c.world c.registryRoot? = .ok root)
    (h : c.world.isDirectory (sourcesOf root) ≠ .ok true) (package subPath : String) :
    IsWithoutSources root (c.registryModule package subPath) := by
  rw [registryModule_of_no_sources hroot h]
  rcases hdirectory : c.world.isDirectory (sourcesOf root) with fault | holds
  · obtain ⟨rfl, -⟩ := FileTree.isOverLong_of_isDirectory hdirectory
    exact .inr rfl
  · exact .inl rfl

/-- Without long names there is one way not to be a directory. -/
theorem isDirectory_eq_of_missing {tree other : FileTree} {cwd p : Path}
    (hshort : ∀ part ∈ FileTree.fromTop cwd p, Text.nameSize part ≤ FileTree.nameLimit)
    (h : tree.isDirectory cwd p ≠ .ok true) (h' : other.isDirectory cwd p ≠ .ok true) :
    tree.isDirectory cwd p = other.isDirectory cwd p := by
  by_cases hp : p.Expressible
  · have hfalse : ∀ {files : FileTree}, files.isDirectory cwd p ≠ .ok true →
        files.isDirectory cwd p = .ok false := by
      intro files hfiles
      rcases hdirectory : files.isDirectory cwd p with fault | _ | _
      · obtain ⟨-, hsize | ⟨part, hpart, hsize⟩⟩ := FileTree.isOverLong_of_isDirectory hdirectory
        · exact absurd hp.short (Nat.not_lt.mpr hsize)
        · exact absurd (hshort part hpart) (Nat.not_le.mpr hsize)
      · rfl
      · exact absurd hdirectory hfiles
    rw [hfalse h, hfalse h']
  · have hstat : tree.stat cwd p = other.stat cwd p := FileTree.stat_of_not_expressible hp
    unfold FileTree.isDirectory FileTree.probe
    rw [hstat]

/-- Two file systems hold the same module of a package, unless the sources are missing under
a name that is too long. -/
theorem registryModule_over {other : FileTree} (hsound : c.world.tree.Sound)
    (hlayout : HasPlainModules c.settings.layout) {root : Path}
    (hroot : Registry.root c.world c.registryRoot? = .ok root)
    (hagree : c.world.tree.AgreeBelow other c.world.env.cwd (sourcesOf root))
    {segments : List String} (hsegments : ∀ segment ∈ segments, IsIdent segment.toList)
    {subPath : String}
    (h : modulePath? c.settings.layout.moduleExtension segments = some subPath)
    (package : String) :
    c.registryModule package subPath = (c.over other).registryModule package subPath ∨
      NeedsLongName c root ∧ IsWithoutSources root (c.registryModule package subPath) ∧
        IsWithoutSources root ((c.over other).registryModule package subPath) := by
  have hroot' : Registry.root (c.over other).world (c.over other).registryRoot? = .ok root := hroot
  by_cases htop : c.world.isDirectory (sourcesOf root) = .ok true
  · left
    have htop' : (c.over other).world.isDirectory (sourcesOf root) = .ok true :=
      FileTree.isDirectory_iff.mpr (hagree.stat_top.mp (FileTree.isDirectory_iff.mp htop))
    have hsame := packageModule_over hsound hagree htop hlayout hsegments h package
    rw [registryModule_of_root hroot, registryModule_of_root hroot', htop, htop', hsame]
  · have htop' : (c.over other).world.isDirectory (sourcesOf root) ≠ .ok true := fun htrue =>
      htop (FileTree.isDirectory_iff.mpr (hagree.stat_top.mpr (FileTree.isDirectory_iff.mp htrue)))
    by_cases hlong : NeedsLongName c root
    · exact .inr ⟨hlong, isWithoutSources_registryModule hroot htop package subPath,
        isWithoutSources_registryModule hroot' htop' package subPath⟩
    · left
      have hshort : ∀ part ∈ FileTree.fromTop c.world.env.cwd (sourcesOf root),
          Text.nameSize part ≤ FileTree.nameLimit := by
        intro part hpart
        exact Nat.not_lt.mp fun hsize => hlong ⟨part, hpart, hsize⟩
      have hsame : c.world.isDirectory (sourcesOf root) =
          (c.over other).world.isDirectory (sourcesOf root) :=
        isDirectory_eq_of_missing hshort htop htop'
      rw [registryModule_of_no_sources hroot htop, registryModule_of_no_sources hroot' htop', hsame]

/-! ## Where the module lies -/

def InLibrary (c : Context) (root : Path) (package : String) (target : Path) : Prop :=
  ∃ indexes index version inside,
    c.world.list (sourcesOf root) = .ok indexes ∧ index ∈ indexes ∧
    Registry.HoldsVersion c.world package ((sourcesOf root).below [index]) version ∧
    inside ≠ [] ∧ ".." ∉ inside ∧
    target = ((sourcesOf root).below
      [index, version, c.settings.layout.libraryDir]).normalize.below inside

theorem gives_registryModule_inside (hlayout : HasPlainModules c.settings.layout)
    {segments : List String} (hsegments : ∀ segment ∈ segments, IsIdent segment.toList)
    {subPath : String}
    (h : modulePath? c.settings.layout.moduleExtension segments = some subPath) {root : Path}
    (hroot : Registry.root c.world c.registryRoot? = .ok root) (package : String) :
    Gives (fun path => InLibrary c root package path.normalize)
      (c.registryModule package subPath) := by
  obtain ⟨direct, indexed, hdirectNe, hdirect, hindexedNe, hindexed, hbelow⟩ :=
    paths_below_of_modulePath hlayout hsegments h
  have hpackage : Gives (fun hit => InLibrary c root package hit.2.normalize)
      (c.packageModule package subPath (sourcesOf root)) := by
    refine Gives.bind fun indexDirs hindexDirs => Gives.firstHit_mem fun indexDir hindexDir => ?_
    obtain ⟨indexes, index, hlist, hindex, rfl, -⟩ :=
      exists_of_mem_subdirectories hindexDirs hindexDir
    refine Gives.bind fun versions hversions => Gives.firstHit_mem fun version hversion => ?_
    have hholds := Registry.holdsVersion_of_mem hversions hversion
    have hinside : ∀ {inside : List String}, inside ≠ [] → ".." ∉ inside →
        InLibrary c root package (((sourcesOf root).below
          [index, version, c.settings.layout.libraryDir]).below inside).normalize := by
      intro inside hne hup
      exact ⟨indexes, index, version, inside, hlist, hindex, hholds, hne, hup,
        Path.normalize_below _ hup⟩
    refine Gives.bind fun found? hfound => ?_
    cases found? with
    | none => exact Gives.nothing
    | some path =>
        refine Gives.found ?_
        rw [libraryOfVersion_eq hlayout] at hfound
        obtain ⟨hfirst, hsecond⟩ := hbelow
          ((sourcesOf root).below [index, version, c.settings.layout.libraryDir])
        rcases path_of_findModule hfound with rfl | rfl
        · rw [hfirst]
          exact hinside hdirectNe hdirect
        · rw [hsecond]
          exact hinside hindexedNe hindexed
  rw [registryModule_of_root hroot]
  refine Gives.bind fun isDirectory _ => ?_
  cases isDirectory with
  | false => exact Gives.nothing
  | true =>
      refine Gives.bind fun hit? hhit => ?_
      cases hit? with
      | none => exact Gives.nothing
      | some hit => exact Gives.found (hpackage hit hhit)

/-- Imports that the registry alone serves do not see the project. Over two file systems with
the same sources of the registry, from any two files, new sessions give the same answer;
only if the sources are not there and would need a name that is too long, one may find
nothing and the other be refused. A module that is found lies in the library of a version
of the package. -/
theorem freshResolution_over (c : Context) (other : FileTree) (hsound : c.world.tree.Sound)
    (hlayout : HasPlainModules c.settings.layout)
    (hagree : ∀ {root}, Registry.root c.world c.registryRoot? = .ok root →
      c.world.tree.AgreeBelow other c.world.env.cwd (sourcesOf root))
    {segments modulePart : List String} {package : String}
    (hserved : ServedBy c segments package modulePart)
    (hsegments : ∀ segment ∈ segments, IsIdent segment.toList)
    (file file' : Path) (localName localName' : String) :
    let answer := c.freshResolution file localName (joinSegments segments)
    let answer' := (c.over other).freshResolution file' localName' (joinSegments segments)
    (answer = answer' ∨ ∃ root, Registry.root c.world c.registryRoot? = .ok root ∧
        NeedsLongName c root ∧ IsWithoutSources root answer ∧ IsWithoutSources root answer') ∧
      ∀ target, answer = .ok (some target) →
        ∃ root, Registry.root c.world c.registryRoot? = .ok root ∧
          InLibrary c root package target := by
  have hserved' : ServedBy (c.over other) segments package modulePart := by
    cases hserved with
    | stdlib segment rest => exact .stdlib segment rest
    | external name segment rest hget hne => exact .external name segment rest hget hne
  obtain ⟨subPath, hsub, hresolution⟩ := hserved.resolution_eq hsegments
  obtain ⟨subPath', hsub', hresolution'⟩ := hserved'.resolution_eq hsegments
  cases Option.some.inj (hsub.symm.trans hsub')
  have hmodule : ∀ segment ∈ modulePart, IsIdent segment.toList := by
    intro segment hsegment
    apply hsegments
    cases hserved with
    | stdlib first rest => exact List.mem_cons_of_mem _ hsegment
    | external name first rest => exact List.mem_cons_of_mem _ (List.mem_cons_of_mem _ hsegment)
  simp only [freshResolution_eq, hresolution, hresolution']
  cases hroot : Registry.root c.world c.registryRoot? with
  | error fault =>
      have hroot' : Registry.root (c.over other).world (c.over other).registryRoot? =
          .error fault := hroot
      have hrefused : ∀ {d : Context}, Registry.root d.world d.registryRoot? = .error fault →
          d.registryModule package subPath = .error fault := by
        intro d hd
        rw [registryModule_eq, hd]
        rfl
      rw [hrefused hroot, hrefused hroot']
      refine ⟨.inl rfl, ?_⟩
      intro target htarget
      cases htarget
  | ok root =>
      refine ⟨?_, ?_⟩
      · rcases registryModule_over hsound hlayout hroot (hagree hroot) hmodule hsub package with
          hsame | ⟨hlong, hmissing, hmissing'⟩
        · exact .inl (by rw [hsame])
        · refine .inr ⟨root, rfl, hlong, ?_, ?_⟩
          · rcases hmissing with hnone | hrefused
            · exact .inl (by rw [hnone]; rfl)
            · exact .inr (by rw [hrefused]; rfl)
          · rcases hmissing' with hnone | hrefused
            · exact .inl (by rw [hnone]; rfl)
            · exact .inr (by rw [hrefused]; rfl)
      · intro target htarget
        rcases hfound : c.registryModule package subPath with fault | _ | path
        all_goals
          rw [hfound] at htarget
          cases htarget
        exact ⟨root, rfl,
          gives_registryModule_inside hlayout hmodule hsub hroot package path hfound⟩

def bareRegistry : Context where
  world :=
    { tree := ⟨⟨[(["r"], .directory), (["r", "registry"], .directory),
        (["r", "registry", "src"], .directory), (["r", "registry", "src", "i"], .directory),
        (["r", "registry", "src", "i", "miden-stdlib-1"], .directory),
        (["r", "registry", "src", "i", "miden-stdlib-1", "asm"], .directory),
        (["r", "registry", "src", "i", "miden-stdlib-1", "asm", "m.masm"], .file .empty)]⟩⟩
      env := ⟨.empty, ⟨.slash, []⟩, [], 0⟩ }
  settings := {}
  registryRoot? := some ⟨.slash, ["r"]⟩

def besideProject : FileTree :=
  ⟨⟨(["p"], .directory) :: (["p", "asm"], .directory) ::
    (["p", "asm", "m.masm"], .file .empty) :: bareRegistry.world.tree.nodes.entries⟩⟩

theorem freshResolution_besideProject :
    let target : Path :=
      ⟨.slash, ["r", "registry", "src", "i", "miden-stdlib-1", "asm", "m.masm"]⟩
    bareRegistry.freshResolution ⟨.slash, ["f.masm"]⟩ "m" "std::m" = .ok (some target) ∧
      (bareRegistry.over besideProject).freshResolution ⟨.slash, ["p", "asm", "f.masm"]⟩ "m"
        "std::m" = .ok (some target) ∧
      InLibrary bareRegistry ⟨.slash, ["r"]⟩ "miden-stdlib" target := by
  intro target
  have hplain : bareRegistry.world.tree.IsPlain := by decide +kernel
  have hplain' : besideProject.IsPlain := by decide +kernel
  have hlayout : HasPlainModules bareRegistry.settings.layout :=
    ⟨isPlainLayout_default.moduleIndexFile, isPlainLayout_default.libraryDir,
      isPlainLayout_default.moduleExtension⟩
  have hagree : ∀ {root}, Registry.root bareRegistry.world bareRegistry.registryRoot? = .ok root →
      bareRegistry.world.tree.AgreeBelow besideProject bareRegistry.world.env.cwd
        (sourcesOf root) := by
    intro root hroot
    cases hroot
    exact .of_nodesBelow hplain hplain' ⟨rfl, by decide⟩ rfl
  have hsegments : ∀ segment ∈ ["std", "m"], IsIdent segment.toList := by
    intro segment hsegment
    simp only [List.mem_cons, List.not_mem_nil, or_false] at hsegment
    rcases hsegment with rfl | rfl
    · exact ⟨'s', ['t', 'd'], rfl, by decide, List.all_eq_true.mp (by decide)⟩
    · exact ⟨'m', [], rfl, by decide, by simp⟩
  have hanswer : bareRegistry.freshResolution ⟨.slash, ["f.masm"]⟩ "m" "std::m" =
      .ok (some target) := by
    decide +kernel
  obtain ⟨hsame, hinside⟩ := freshResolution_over bareRegistry besideProject hplain.toSound hlayout
    hagree (.stdlib "m" []) hsegments ⟨.slash, ["f.masm"]⟩ ⟨.slash, ["p", "asm", "f.masm"]⟩ "m" "m"
  obtain ⟨root, hroot, hlibrary⟩ := hinside target hanswer
  cases hroot
  refine ⟨hanswer, ?_, hlibrary⟩
  rcases hsame with hsame | ⟨root, hroot, ⟨part, hpart, hlong⟩, -⟩
  · exact hsame.symm.trans hanswer
  · -- no name on the way to the sources is long
    cases hroot
    have hshort : ∀ part ∈ FileTree.fromTop bareRegistry.world.env.cwd (sourcesOf ⟨.slash, ["r"]⟩),
        Text.nameSize part ≤ FileTree.nameLimit := by
      decide +kernel
    exact absurd (hshort part hpart) (Nat.not_le.mpr hlong)

end Session

end AsmNavigator
