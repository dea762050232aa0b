import AsmNavigator.Proofs.Registry.KeyOrder

/-! # What a search in the registry finds

A hit is the best of all places that hold the module: no index directory before its own
holds it in any version, and within its own no version that comes earlier does. A search
without a hit means that there is no such place. A search is refused only where a question
to the file system is, or where the name of a version has no key.
-/

namespace AsmNavigator.Registry

open Config Workspace

variable {w : World} {layout : Layout} {package subPath : String}

/-! ## Modules -/

/-- The file of a module below a directory: the direct file, or else the index file. -/
inductive IsModuleFile (w : World) (layout : Layout) (base : Path) (subPath : String) :
    Path → Prop where
  | direct : w.isFile (base / subPath) = .ok true →
      IsModuleFile w layout base subPath (base / subPath)
  | indexed : w.isFile (base / subPath) = .ok false →
      w.isFile (base / moduleStem layout.moduleExtension subPath / layout.moduleIndexFile) =
        .ok true →
      IsModuleFile w layout base subPath
        (base / moduleStem layout.moduleExtension subPath / layout.moduleIndexFile)

/-- A question for one of the two files of a module that is refused. -/
def ModuleRefused (w : World) (layout : Layout) (base : Path) (subPath : String)
    (fault : Fault) : Prop :=
  w.isFile (base / subPath) = .error fault ∨
    w.isFile (base / moduleStem layout.moduleExtension subPath / layout.moduleIndexFile) =
      .error fault

theorem findModule_eq_some_iff {base path : Path} :
    findModule w layout.moduleExtension layout.moduleIndexFile base subPath = .ok (some path) ↔
      IsModuleFile w layout base subPath path := by
  constructor
  · intro h
    obtain ⟨isDirect, hdirect, h⟩ := bind_eq_ok.mp h
    cases isDirect with
    | true =>
        cases h
        exact .direct hdirect
    | false =>
        obtain ⟨isIndexed, hindexed, h⟩ := bind_eq_ok.mp h
        cases isIndexed with
        | true =>
            cases h
            exact .indexed hdirect hindexed
        | false => cases h
  · intro h
    unfold findModule
    cases h with
    | direct hdirect =>
        simp only [hdirect]
        rfl
    | indexed hdirect hindexed =>
        simp only [hdirect, hindexed]
        rfl

theorem IsModuleFile.unique {base path path' : Path} (h : IsModuleFile w layout base subPath path)
    (h' : IsModuleFile w layout base subPath path') : path = path' := by
  have hsame := (findModule_eq_some_iff.mpr h).symm.trans (findModule_eq_some_iff.mpr h')
  cases hsame
  rfl

theorem moduleRefused_of_findModule {base : Path} {fault : Fault}
    (h : findModule w layout.moduleExtension layout.moduleIndexFile base subPath =
      .error fault) : ModuleRefused w layout base subPath fault := by
  rcases bind_eq_error.mp h with hdirect | ⟨isDirect, -, h⟩
  · exact .inl hdirect
  · cases isDirect with
    | true => cases h
    | false =>
        rcases bind_eq_error.mp h with hindexed | ⟨isIndexed, -, h⟩
        · exact .inr hindexed
        · cases isIndexed <;> cases h

/-! ## One index directory -/

def libraryOf (layout : Layout) (indexDir : Path) (version : String) : Path :=
  indexDir / Path.relative [version] / layout.libraryDir

variable {indexDir : Path}

structure HoldsModule (w : World) (layout : Layout) (package subPath : String) (indexDir : Path)
    (version : String) (path : Path) : Prop where
  listed : HoldsVersion w package indexDir version
  isModuleFile : IsModuleFile w layout (libraryOf layout indexDir version) subPath path

theorem mem_of_holdsVersion {found : List String} (h : versions w package indexDir = .ok found)
    {name : String} (hname : HoldsVersion w package indexDir name) : name ∈ found := by
  obtain ⟨names, hlist, hmem, hprefix⟩ := hname
  obtain ⟨names', hnames, h⟩ := bind_eq_ok.mp h
  rw [hlist] at hnames
  cases hnames
  exact (VersionKey.mem_descending_iff h).mpr (List.mem_filter.mpr ⟨hmem, hprefix⟩)

/-- Of two versions the greater one comes first. -/
theorem versions_pair {name other : String} (hlist : w.list indexDir = .ok [name, other])
    (hname : (package ++ "-").toList.isPrefixOf name.toList = true)
    (hother : (package ++ "-").toList.isPrefixOf other.toList = true) {key key' : VersionKey}
    (hkey : VersionKey.ofName name = .ok key) (hkey' : VersionKey.ofName other = .ok key')
    (hlt : VersionKey.compareKeys key key' = .lt) :
    versions w package indexDir = .ok [other, name] := by
  have hboth : [name, other].filter
      (fun name => (package ++ "-").toList.isPrefixOf name.toList) = [name, other] := by
    simp only [List.filter_cons, hname, hother, if_true, List.filter_nil]
  simp only [versions, hlist, orOnRefusal, bind, Except.bind, hboth]
  exact VersionKey.descending_pair hkey hkey' hlt

/-- The version that is found holds the module, and none that comes before it does. -/
theorem findInIndex_eq_some {version : String} {path : Path}
    (h : findInIndex w layout package subPath indexDir = .ok (some (version, path))) :
    HoldsModule w layout package subPath indexDir version path ∧
      ∀ other path', HoldsModule w layout package subPath indexDir other path' →
        VersionKey.AtLeast version other := by
  obtain ⟨found, hfound, h⟩ := bind_eq_ok.mp h
  obtain ⟨before, version', after, rfl, hbefore, hversion⟩ := exists_of_firstHit_eq_some h
  obtain ⟨path?, hpath, hdone⟩ := bind_eq_ok.mp hversion
  cases path? with
  | none => cases hdone
  | some found =>
      cases hdone
      refine ⟨⟨holdsVersion_of_mem hfound (by simp), findModule_eq_some_iff.mp hpath⟩, ?_⟩
      intro other path' hother
      obtain ⟨names, -, hsorted⟩ := bind_eq_ok.mp hfound
      rcases List.mem_append.mp (mem_of_holdsVersion hfound hother.listed) with hmem | hmem
      · have hnone := hbefore other hmem
        have hsome := findModule_eq_some_iff.mpr hother.isModuleFile
        rw [libraryOf] at hsome
        simp only [hsome] at hnone
        cases hnone
      · exact VersionKey.atLeast_of_descending hsorted hmem

theorem findInIndex_eq_none (h : findInIndex w layout package subPath indexDir = .ok none)
    (version : String) (path : Path) :
    ¬ HoldsModule w layout package subPath indexDir version path := by
  intro hholds
  obtain ⟨found, hfound, h⟩ := bind_eq_ok.mp h
  have hnone := eq_none_of_firstHit_eq_none h (mem_of_holdsVersion hfound hholds.listed)
  have hsome := findModule_eq_some_iff.mpr hholds.isModuleFile
  rw [libraryOf] at hsome
  simp only [hsome] at hnone
  cases hnone

/-- A search in one index directory is refused for a name without a key or for a file. -/
theorem findInIndex_eq_error (hdir : indexDir.IsEncodable) {fault : Fault}
    (h : findInIndex w layout package subPath indexDir = .error fault) :
    ∃ version, HoldsVersion w package indexDir version ∧
      (VersionKey.ofName version = .error fault ∨
        ModuleRefused w layout (libraryOf layout indexDir version) subPath fault) := by
  rcases bind_eq_error.mp h with hversions | ⟨found, hfound, h⟩
  · obtain ⟨version, hholds, hkey⟩ := exists_of_versions_error hdir hversions
    exact ⟨version, hholds, .inl hkey⟩
  · obtain ⟨version, hmem, h⟩ := exists_of_firstHit_error h
    rcases bind_eq_error.mp h with hmodule | ⟨path?, -, hdone⟩
    · exact ⟨version, holdsVersion_of_mem hfound hmem, .inr (moduleRefused_of_findModule hmodule)⟩
    · cases hdone

/-! ## All index directories -/

def sources (root : Path) : Path := root / "registry" / "src"

structure IsIndexDir (w : World) (root : Path) (index : String) : Prop where
  listed : ∃ names, w.list (sources root) = .ok names ∧ index ∈ names
  isDirectory : w.isDirectory ((sources root).below [index]) = .ok true

/-- An index directory with a version that holds a module. -/
structure Holds (w : World) (layout : Layout) (root : Path) (package subPath : String)
    (index version : String) (path : Path) : Prop where
  isIndexDir : IsIndexDir w root index
  holdsModule : HoldsModule w layout package subPath ((sources root).below [index]) version path

/-- A question that a search asks of the file system and that is refused: whether there are
sources, or for a file of a listed version. -/
def ProbeRefused (w : World) (layout : Layout) (root : Path) (package subPath : String)
    (fault : Fault) : Prop :=
  w.isDirectory (sources root) = .error fault ∨
    ∃ index version, IsIndexDir w root index ∧
      HoldsVersion w package ((sources root).below [index]) version ∧
      ModuleRefused w layout (libraryOf layout ((sources root).below [index]) version) subPath fault

variable {configured? : Option Path} {root : Path}

/-- How a search runs once its sources are known to be a directory. -/
theorem find_of_sources (hroot : Registry.root w configured? = .ok root)
    (hsources : w.isDirectory (sources root) = .ok true) :
    find w layout configured? package subPath = (do
      let indexDirs ← subdirectories w (sources root)
      match ← firstHit (findInIndex w layout package subPath) indexDirs with
      | some (version, path) => return .hit version path
      | none => return .miss) := by
  simp only [sources] at hsources
  unfold find
  rw [hroot]
  simp only [bind, Except.bind, hsources]
  rfl

/-- The first version in the first index directory answers if it holds the module. -/
theorem find_first_version (hroot : Registry.root w configured? = .ok root)
    (hsources : w.isDirectory (sources root) = .ok true) {dirs : List Path}
    (hdirs : subdirectories w (sources root) = .ok (indexDir :: dirs)) {version : String}
    {others : List String} (hversions : versions w package indexDir = .ok (version :: others))
    {path : Path} (hfile : IsModuleFile w layout (libraryOf layout indexDir version) subPath path) :
    find w layout configured? package subPath = .ok (.hit version path) := by
  have hmodule := findModule_eq_some_iff.mpr hfile
  rw [libraryOf] at hmodule
  rw [find_of_sources hroot hsources, hdirs]
  simp only [bind, Except.bind, firstHit, findInIndex, hversions, hmodule]
  rfl

theorem exists_of_find_hit {version : String} {path : Path}
    (h : find w layout configured? package subPath = .ok (.hit version path)) :
    ∃ root indexDirs, Registry.root w configured? = .ok root ∧
      subdirectories w (sources root) = .ok indexDirs ∧
      firstHit (findInIndex w layout package subPath) indexDirs = .ok (some (version, path)) := by
  obtain ⟨root, hroot, hrest⟩ := bind_eq_ok.mp h
  obtain ⟨isDirectory, hsources, hdone⟩ := bind_eq_ok.mp hrest
  cases isDirectory with
  | false => cases hdone
  | true =>
      rw [find_of_sources hroot hsources] at h
      obtain ⟨indexDirs, hdirs, h⟩ := bind_eq_ok.mp h
      obtain ⟨found?, hfound, h⟩ := bind_eq_ok.mp h
      cases found? with
      | none => cases h
      | some found =>
          cases h
          exact ⟨root, indexDirs, hroot, hdirs, hfound⟩

/-- A hit holds the module, and every other place that does comes later: it is in a later
index directory, or it is a version that is sorted behind. -/
theorem find_hit {version : String} {path : Path}
    (h : find w layout configured? package subPath = .ok (.hit version path)) :
    ∃ root index, Registry.root w configured? = .ok root ∧
      Holds w layout root package subPath index version path ∧
      ∀ index' version' path', Holds w layout root package subPath index' version' path' →
        index < index' ∨ index = index' ∧ VersionKey.AtLeast version version' := by
  obtain ⟨root, indexDirs, hroot, hdirs, hfound⟩ := exists_of_find_hit h
  obtain ⟨before, indexDir, after, hsplit, hbefore, hindexDir⟩ := exists_of_firstHit_eq_some hfound
  obtain ⟨names, indexes, hlist, hnames, hsorted, hmem⟩ :=
    subdirectories_of_mem hdirs (d := indexDir) (by simp [hsplit])
  rw [hnames] at hsplit
  obtain ⟨earlier, others, rfl, rfl, hothers⟩ := List.map_eq_append_iff.mp hsplit
  obtain ⟨index, later, rfl, rfl, rfl⟩ := List.map_eq_cons_iff.mp hothers
  obtain ⟨hlisted, hdirectory⟩ := (hmem index).mp (by simp)
  obtain ⟨hholds, hbest⟩ := findInIndex_eq_some hindexDir
  refine ⟨root, index, hroot, ⟨⟨⟨names, hlist, hlisted⟩, hdirectory⟩, hholds⟩, ?_⟩
  intro index' version' path' hother
  obtain ⟨names', hlist', hlisted'⟩ := hother.isIndexDir.listed
  cases hlist.symm.trans hlist'
  have hin := (hmem index').mpr ⟨hlisted', hother.isIndexDir.isDirectory⟩
  rcases List.mem_append.mp hin with hin | hin
  · have hnone := hbefore _ (List.mem_map_of_mem hin)
    exact absurd hother.holdsModule (findInIndex_eq_none hnone version' path')
  · rcases List.mem_cons.mp hin with rfl | hin
    · exact .inr ⟨rfl, hbest _ _ hother.holdsModule⟩
    · have hle : index ≤ index' :=
        (List.pairwise_cons.mp (List.pairwise_append.mp hsorted).2.1).1 index' hin
      by_cases hlt : index < index'
      · exact .inl hlt
      · obtain rfl := String.le_antisymm hle (String.not_lt.mp hlt)
        exact .inr ⟨rfl, hbest _ _ hother.holdsModule⟩

/-- A search that finds nothing has looked at every place, unless an entry of the sources
could not be asked whether it is a directory. -/
theorem find_miss {outcome : Outcome}
    (h : find w layout configured? package subPath = .ok outcome) (hnone : outcome.path? = none)
    (hroot : Registry.root w configured? = .ok root)
    (hasked : ∀ names, w.list (sources root) = .ok names → ∀ name ∈ names,
      ∃ holds, w.isDirectory ((sources root).below [name]) = .ok holds)
    (index version : String) (path : Path) :
    ¬ Holds w layout root package subPath index version path := by
  intro hholds
  obtain ⟨names, hlist, hlisted⟩ := hholds.isIndexDir.listed
  obtain ⟨indexes, hdirs, -, hperm⟩ := subdirectories_of_list hlist (hasked names hlist)
  have hsources : w.isDirectory (sources root) = .ok true :=
    FileTree.isDirectory_of_list hlist
  rw [find_of_sources hroot hsources] at h
  obtain ⟨indexDirs, hdirs', h⟩ := bind_eq_ok.mp h
  obtain ⟨found?, hfound, h⟩ := bind_eq_ok.mp h
  cases hdirs.symm.trans hdirs'
  cases found? with
  | some found =>
      cases h
      cases hnone
  | none =>
      have hin : index ∈ indexes := by
        rw [hperm.mem_iff, List.mem_filter, decide_eq_true_eq]
        exact ⟨hlisted, hholds.isIndexDir.isDirectory⟩
      have hempty := eq_none_of_firstHit_eq_none hfound (List.mem_map_of_mem hin)
      exact findInIndex_eq_none hempty version path hholds.holdsModule

/-- A search is refused by the file system or by the name of a version. -/
theorem find_error (hroot : Registry.root w configured? = .ok root) {fault : Fault}
    (h : find w layout configured? package subPath = .error fault) :
    ProbeRefused w layout root package subPath fault ∨
      ∃ index version, IsIndexDir w root index ∧
        HoldsVersion w package ((sources root).below [index]) version ∧
        VersionKey.ofName version = .error fault := by
  rcases bind_eq_error.mp h with hrefused | ⟨root', hroot', h⟩
  · cases hroot.symm.trans hrefused
  cases hroot.symm.trans hroot'
  rcases bind_eq_error.mp h with hsources | ⟨isDirectory, hsources, h⟩
  · exact .inl (.inl hsources)
  cases isDirectory with
  | false => cases h
  | true =>
      have hexpressible := (FileTree.stat_ok_iff.mp (FileTree.isDirectory_iff.mp hsources)).1
      obtain ⟨indexDirs, hdirs⟩ := exists_subdirectories (w := w) hexpressible.isEncodable
      rcases bind_eq_error.mp h with hrefused | ⟨indexDirs', hdirs', h⟩
      · cases hdirs.symm.trans hrefused
      rcases bind_eq_error.mp h with hsearch | ⟨found?, -, hdone⟩
      · obtain ⟨indexDir, hindexDir, hfault⟩ := exists_of_firstHit_error hsearch
        have hdir := expressible_of_mem_subdirectories hdirs' hindexDir
        obtain ⟨names, index, hlist, hname, rfl, hdirectory⟩ :=
          exists_of_mem_subdirectories hdirs' hindexDir
        have hindex : IsIndexDir w root index := ⟨⟨names, hlist, hname⟩, hdirectory⟩
        obtain ⟨version, hversion, hkey | hmodule⟩ := findInIndex_eq_error hdir.isEncodable hfault
        · exact .inr ⟨index, version, hindex, hversion, hkey⟩
        · exact .inl (.inr ⟨index, version, hindex, hversion, hmodule⟩)
      · cases found? <;> cases hdone

end AsmNavigator.Registry
