import AsmNavigator.Proofs.Registry.Search
import AsmNavigator.Proofs.Registry.VersionNames

/-! # Packages whose name begins with that of another one

The entries that belong to a package are told by the name of the package and a dash alone,
so those of a package with a longer name are searched too. They are sorted before all
versions: in the index directory that answers, a package with a longer name answers as
soon as it holds the module.
-/

namespace AsmNavigator.Registry

open Config Workspace

/-- The answer comes from the first index directory that holds the module at all, and there
from a package with a longer name exactly if such a package holds the module. Only if none
does can a version of the package itself answer. -/
theorem isLongerName_iff_of_find_hit {w : World} {layout : Layout} {configured? : Option Path}
    {package subPath version : String} {path : Path}
    (h : find w layout configured? package subPath = .ok (.hit version path)) :
    ∃ root index, Registry.root w configured? = .ok root ∧
      Holds w layout root package subPath index version path ∧
      (∀ index' version' path', Holds w layout root package subPath index' version' path' →
        index ≤ index') ∧
      (IsLongerName package version ↔ ∃ other path',
        Holds w layout root package subPath index other path' ∧ IsLongerName package other) ∧
      (IsVersionOf package version → ∀ other path',
        Holds w layout root package subPath index other path' → ¬ IsLongerName package other) := by
  obtain ⟨root, index, hroot, hholds, hbest⟩ := find_hit h
  have hlonger : IsLongerName package version ↔ ∃ other path',
      Holds w layout root package subPath index other path' ∧ IsLongerName package other := by
    constructor
    · exact fun hlonger => ⟨version, path, hholds, hlonger⟩
    · rintro ⟨other, path', hother, hlonger⟩
      by_contra hversion
      obtain ⟨-, -, -, hprefix⟩ := hholds.holdsModule.listed
      rcases hbest index other path' hother with hlt | ⟨-, hatLeast⟩
      · exact String.lt_irrefl index hlt
      · exact not_atLeast_of_isLongerName hprefix hversion hlonger hatLeast
  refine ⟨root, index, hroot, hholds, fun index' version' path' hother => ?_, hlonger, ?_⟩
  · rcases hbest index' version' path' hother with hlt | ⟨rfl, -⟩
    · exact String.not_lt.mp fun hgt => String.lt_irrefl index (String.lt_trans hlt hgt)
    · exact String.le_refl index
  · intro hversion other path' hother hother'
    exact hversion.not_isLongerName (hlonger.mpr ⟨other, path', hother, hother'⟩)

/-- An index directory with a version of one package and one of a package with a longer
name, where both hold a module. -/
def extendedName : World where
  tree := ⟨⟨[(["r"], .directory), (["r", "registry"], .directory),
    (["r", "registry", "src"], .directory), (["r", "registry", "src", "i"], .directory),
    (["r", "registry", "src", "i", "p-0.9.0"], .directory),
    (["r", "registry", "src", "i", "p-0.9.0", "asm"], .directory),
    (["r", "registry", "src", "i", "p-0.9.0", "asm", "m.masm"], .file .empty),
    (["r", "registry", "src", "i", "p-lib-0.2.0"], .directory),
    (["r", "registry", "src", "i", "p-lib-0.2.0", "asm"], .directory),
    (["r", "registry", "src", "i", "p-lib-0.2.0", "asm", "m.masm"], .file .empty)]⟩⟩
  env := ⟨.empty, ⟨.slash, []⟩, [], 0⟩

/-- The package with the longer name answers, although the other one has a version. -/
theorem find_extendedName :
    let root : Path := ⟨.slash, ["r"]⟩
    let path : Path := ⟨.slash, ["r", "registry", "src", "i", "p-lib-0.2.0", "asm", "m.masm"]⟩
    find extendedName {} (some root) "p" "m.masm" = .ok (.hit "p-lib-0.2.0" path) ∧
      (IsLongerName "p" "p-lib-0.2.0" ↔ ∃ other path',
        Holds extendedName {} root "p" "m.masm" "i" other path' ∧ IsLongerName "p" other) := by
  intro root path
  have hkey : VersionKey.ofName "p-0.9.0" =
      .ok [.text "p-", .number 0, .text ".", .number 9, .text ".", .number 0] := by
    decide +kernel
  have hkey' : VersionKey.ofName "p-lib-0.2.0" =
      .ok [.text "p-lib-", .number 0, .text ".", .number 2, .text ".", .number 0] := by
    decide +kernel
  have hversions : versions extendedName "p" ((sources root).below ["i"]) =
      .ok ["p-lib-0.2.0", "p-0.9.0"] :=
    versions_pair (by decide +kernel) (by decide +kernel) (by decide +kernel) hkey hkey'
      (by decide +kernel)
  have hsources : extendedName.isDirectory (sources root) = .ok true := by decide +kernel
  have hdirs : subdirectories extendedName (sources root) = .ok [(sources root).below ["i"]] := by
    decide +kernel
  have hfind : find extendedName {} (some root) "p" "m.masm" =
      .ok (.hit "p-lib-0.2.0" path) :=
    find_first_version rfl hsources hdirs hversions (.direct (by decide +kernel))
  refine ⟨hfind, ?_⟩
  obtain ⟨root', index, hroot, hholds, -, hiff, -⟩ := isLongerName_iff_of_find_hit hfind
  cases hroot
  obtain ⟨names, hlist, hlisted⟩ := hholds.isIndexDir.listed
  have hnames : extendedName.list (sources root) = .ok ["i"] := by decide +kernel
  cases hnames.symm.trans hlist
  cases List.mem_singleton.mp hlisted
  exact hiff

end AsmNavigator.Registry
