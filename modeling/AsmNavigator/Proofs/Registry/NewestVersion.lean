import AsmNavigator.Proofs.Registry.Search
import AsmNavigator.Proofs.Registry.VersionNames

/-! # The newest version of a package

Where the entries of a package are versions with numbers, a search answers from the first
index directory in which any version holds the module, and there from the version with the
greatest numbers among those that do. Newer versions without the module, the order in which
the entries are listed and digits in the name of the package have no say.
-/

namespace AsmNavigator.Registry

open Config Workspace

variable {w : World} {layout : Layout} {configured? : Option Path} {root : Path}
  {package subPath : String}

/-- A version that holds the module, in the first index directory in which one does, and
with numbers greater than those of the others there that do. -/
structure IsNewest (w : World) (layout : Layout) (root : Path) (package subPath : String)
    (index : String) (numbers : List Nat) (path : Path) : Prop where
  holds : Holds w layout root package subPath index (versionName package numbers) path
  best : ∀ index' numbers' path',
    Holds w layout root package subPath index' (versionName package numbers') path' →
      index < index' ∨
        index = index' ∧ (numbers' = numbers ∨ List.Lex (· < ·) numbers' numbers)

theorem IsNewest.unique {index index' : String} {numbers numbers' : List Nat} {path path' : Path}
    (h : IsNewest w layout root package subPath index numbers path)
    (h' : IsNewest w layout root package subPath index' numbers' path') : path = path' := by
  rcases h.best index' numbers' path' h'.holds with hlt | ⟨rfl, hle⟩
  · rcases h'.best index numbers path h.holds with hgt | ⟨rfl, -⟩
    · exact absurd (String.lt_trans hlt hgt) (String.lt_irrefl index)
    · exact absurd hlt (String.lt_irrefl index')
  · have hsame : numbers' = numbers := by
      rcases hle with rfl | hless
      · rfl
      · rcases h'.best index numbers path h.holds with hgt | ⟨-, rfl | hgreater⟩
        · exact absurd hgt (String.lt_irrefl index)
        · rfl
        · exact absurd hgreater (List.lt_asymm hless)
    subst hsame
    exact h.holds.holdsModule.isModuleFile.unique h'.holds.holdsModule.isModuleFile

/-- The entries that belong to a package, in all index directories, are versions with at
least one number. -/
def HasNumberedVersions (w : World) (root : Path) (package : String) : Prop :=
  ∀ index, IsIndexDir w root index →
    ∀ name, HoldsVersion w package ((sources root).below [index]) name →
      ∃ numbers, numbers ≠ [] ∧ name = versionName package numbers

theorem isNewest_of_find_hit (hroot : Registry.root w configured? = .ok root)
    (hnumbered : HasNumberedVersions w root package) {version : String} {path : Path}
    (h : find w layout configured? package subPath = .ok (.hit version path)) :
    ∃ index numbers, IsNewest w layout root package subPath index numbers path := by
  obtain ⟨root', index, hroot', hholds, hbest⟩ := find_hit h
  cases hroot.symm.trans hroot'
  obtain ⟨numbers, -, rfl⟩ :=
    hnumbered index hholds.isIndexDir version hholds.holdsModule.listed
  refine ⟨index, numbers, hholds, fun index' numbers' path' hother => ?_⟩
  rcases hbest index' _ path' hother with hlt | ⟨rfl, hatLeast⟩
  · exact .inl hlt
  · exact .inr ⟨rfl, le_of_atLeast_versionName hatLeast⟩

/-- The name of a version that is on disk has a key. -/
theorem exists_ofName_of_holdsVersion (hsound : w.tree.Sound)
    (hpackage : ∀ c ∈ package.toList, c.toNat < 128)
    (hnumbered : HasNumberedVersions w root package) {index : String}
    (hindex : IsIndexDir w root index) {version : String}
    (hversion : HoldsVersion w package ((sources root).below [index]) version) :
    ∃ key, VersionKey.ofName version = .ok key := by
  have hshort : Text.nameSize version ≤ Numeral.digitLimit :=
    Nat.le_trans (hversion.size_le hsound) (by decide)
  obtain ⟨numbers, -, rfl⟩ := hnumbered index hindex version hversion
  exact VersionKey.exists_ofName_of_ascii (toNat_lt_of_mem_versionName hpackage) hshort

/-- The newest version wins: a search that is not refused by the file system finds the module
in the newest version that holds it, and nothing exactly if no version does. -/
theorem find_newest_version (hsound : w.tree.Sound)
    (hpackage : ∀ c ∈ package.toList, c.toNat < 128)
    (hroot : Registry.root w configured? = .ok root)
    (hasked : ∀ names, w.list (sources root) = .ok names → ∀ name ∈ names,
      ∃ holds, w.isDirectory ((sources root).below [name]) = .ok holds)
    (hnumbered : HasNumberedVersions w root package) :
    match find w layout configured? package subPath with
    | .error fault => ProbeRefused w layout root package subPath fault
    | .ok outcome =>
        (∀ path, outcome.path? = some path ↔
          ∃ index numbers, IsNewest w layout root package subPath index numbers path) ∧
        (outcome.path? = none ↔ ∀ index numbers path,
          ¬ Holds w layout root package subPath index (versionName package numbers) path) := by
  cases hfind : find w layout configured? package subPath with
  | error fault =>
      rcases find_error hroot hfind with hrefused | ⟨index, version, hindex, hversion, hfault⟩
      · exact hrefused
      · obtain ⟨key, hkey⟩ :=
          exists_ofName_of_holdsVersion hsound hpackage hnumbered hindex hversion
        cases hkey.symm.trans hfault
  | ok outcome =>
      cases hpath : outcome.path? with
      | none =>
          have hmiss := find_miss hfind hpath hroot hasked
          simp only [hpath]
          refine ⟨fun path => ⟨fun h => (by cases h), ?_⟩,
            iff_of_true trivial fun index numbers => hmiss index _⟩
          rintro ⟨index, numbers, hnewest⟩
          exact absurd hnewest.holds (hmiss index _ path)
      | some found =>
          have hhit : ∃ version, outcome = .hit version found := by
            cases outcome <;> cases hpath
            exact ⟨_, rfl⟩
          simp only [hpath]
          obtain ⟨version, rfl⟩ := hhit
          obtain ⟨index, numbers, hnewest⟩ := isNewest_of_find_hit hroot hnumbered hfind
          refine ⟨fun path => ⟨?_, ?_⟩,
            iff_of_false (by simp) fun hnone => hnone index numbers found hnewest.holds⟩
          · rintro ⟨⟩
            exact ⟨index, numbers, hnewest⟩
          · rintro ⟨index', numbers', hother⟩
            rw [hnewest.unique hother]

def twoVersions : World where
  tree := ⟨⟨[(["r"], .directory), (["r", "registry"], .directory),
    (["r", "registry", "src"], .directory), (["r", "registry", "src", "i"], .directory),
    (["r", "registry", "src", "i", "p-0.9.0"], .directory),
    (["r", "registry", "src", "i", "p-0.9.0", "asm"], .directory),
    (["r", "registry", "src", "i", "p-0.9.0", "asm", "m.masm"], .file .empty),
    (["r", "registry", "src", "i", "p-0.10.0"], .directory),
    (["r", "registry", "src", "i", "p-0.10.0", "asm"], .directory),
    (["r", "registry", "src", "i", "p-0.10.0", "asm", "m.masm"], .file .empty)]⟩⟩
  env := ⟨.empty, ⟨.slash, []⟩, [], 0⟩

/-- Numbers of two digits are greater than those of one. -/
theorem find_twoVersions :
    let root : Path := ⟨.slash, ["r"]⟩
    let path : Path := ⟨.slash, ["r", "registry", "src", "i", "p-0.10.0", "asm", "m.masm"]⟩
    find twoVersions {} (some root) "p" "m.masm" = .ok (.hit "p-0.10.0" path) ∧
      ∃ index numbers, IsNewest twoVersions {} root "p" "m.masm" index numbers path := by
  intro root path
  have hlist : twoVersions.list ((sources root).below ["i"]) = .ok ["p-0.9.0", "p-0.10.0"] := by
    decide +kernel
  have hsources : twoVersions.list (sources root) = .ok ["i"] := by decide +kernel
  have hnumbered : HasNumberedVersions twoVersions root "p" := by
    intro index hindex name hversion
    obtain ⟨indexes, hindexes, hlisted⟩ := hindex.listed
    cases hsources.symm.trans hindexes
    cases List.mem_singleton.mp hlisted
    obtain ⟨names, hnames, hname, -⟩ := hversion
    cases hlist.symm.trans hnames
    rcases List.mem_cons.mp hname with rfl | hname
    · exact ⟨[0, 9, 0], by decide, by decide +kernel⟩
    · cases List.mem_singleton.mp hname
      exact ⟨[0, 10, 0], by decide, by decide +kernel⟩
  have hasked : ∀ names, twoVersions.list (sources root) = .ok names → ∀ name ∈ names,
      ∃ holds, twoVersions.isDirectory ((sources root).below [name]) = .ok holds := by
    intro names hnames name hname
    cases hsources.symm.trans hnames
    cases List.mem_singleton.mp hname
    exact ⟨true, by decide +kernel⟩
  have hascii : ∀ c ∈ "p".toList, c.toNat < 128 := by simp
  have hkey : VersionKey.ofName "p-0.9.0" =
      .ok [.text "p-", .number 0, .text ".", .number 9, .text ".", .number 0] := by
    decide +kernel
  have hkey' : VersionKey.ofName "p-0.10.0" =
      .ok [.text "p-", .number 0, .text ".", .number 10, .text ".", .number 0] := by
    decide +kernel
  have hversions : versions twoVersions "p" ((sources root).below ["i"]) =
      .ok ["p-0.10.0", "p-0.9.0"] :=
    versions_pair hlist (by decide +kernel) (by decide +kernel) hkey hkey' (by decide +kernel)
  have hdirs : subdirectories twoVersions (sources root) = .ok [(sources root).below ["i"]] := by
    decide +kernel
  have hfind : find twoVersions {} (some root) "p" "m.masm" = .ok (.hit "p-0.10.0" path) :=
    find_first_version rfl (FileTree.isDirectory_of_list hsources) hdirs hversions
      (.direct (by decide +kernel))
  have hnewest := @find_newest_version twoVersions {} (some root) root "p" "m.masm"
    (by decide +kernel) hascii rfl hasked hnumbered
  rw [hfind] at hnewest
  exact ⟨hfind, (hnewest.1 path).mp rfl⟩

end AsmNavigator.Registry
