import AsmNavigator.Proofs.Files.Outline
import AsmNavigator.Proofs.Registry.KeyOrder
import AsmNavigator.Proofs.Session.RegistryOnly

/-! # Resolution looks at the outline of the tree

Of the contents of files, the rules for imports look at build scripts and workspace
manifests; of the importing file, at its directory. So an import is resolved alike from all
files of a directory, whatever the other files of the tree contain.
-/

namespace AsmNavigator.Session

open Config Source Workspace

/-- Over another tree the rules for imports are told the same. -/
structure SeesAlike (c : Context) (other : FileTree) : Prop where
  isFile : ∀ p, (c.over other).world.isFile p = c.world.isFile p
  isDirectory : ∀ p, (c.over other).world.isDirectory p = c.world.isDirectory p
  subdirectories : ∀ p,
    Workspace.subdirectories (c.over other).world p = Workspace.subdirectories c.world p
  isWorkspaceManifest : ∀ directory : Path,
    Workspace.isWorkspaceManifest (c.over other).world
        (directory / c.settings.layout.workspaceManifest) =
      Workspace.isWorkspaceManifest c.world (directory / c.settings.layout.workspaceManifest)
  bindingsOf : ∀ crateDir,
    NamespaceTable.bindingsOf (c.over other).world c.settings.layout c.settings.registry crateDir =
      NamespaceTable.bindingsOf c.world c.settings.layout c.settings.registry crateDir
  registryModule : ∀ package subPath,
    (c.over other).registryModule package subPath = c.registryModule package subPath

namespace SeesAlike

variable {c : Context} {other : FileTree} {file file' : Path} (h : SeesAlike c other)
include h

theorem table (root : Path) : (c.over other).table root = c.table root := by
  have hcrate : NamespaceTable.addCrate (c.over other).world c.settings.layout c.settings.registry =
      NamespaceTable.addCrate c.world c.settings.layout c.settings.registry := by
    funext table crateDir
    unfold NamespaceTable.addCrate
    rw [h.bindingsOf]
  unfold Context.table NamespaceTable.discover
  simp only [Context.over_settings, h.subdirectories, hcrate]

theorem moduleBelow (base : Path) (subPath : String) :
    (c.over other).moduleBelow base subPath = c.moduleBelow base subPath := by
  unfold Context.moduleBelow findModule
  simp only [Context.over_settings, h.isFile]

theorem moduleInSubdirectories (library : Path) (subPath : String) :
    (c.over other).moduleInSubdirectories library subPath =
      c.moduleInSubdirectories library subPath := by
  unfold Context.moduleInSubdirectories
  simp only [h.subdirectories, h.moduleBelow]

theorem moduleDeclared (found? : Option NamespaceEntry) (subPath : String) :
    (c.over other).moduleDeclared found? subPath = c.moduleDeclared found? subPath := by
  unfold Context.moduleDeclared Context.moduleOfNamespace
  simp only [Context.over_settings, h.moduleBelow, h.moduleInSubdirectories]

theorem moduleInCrates (root : Path) (name subPath : String) :
    (c.over other).moduleInCrates root name subPath = c.moduleInCrates root name subPath := by
  have hcrate : (c.over other).moduleOfCrate name subPath = c.moduleOfCrate name subPath := by
    funext crateDir
    unfold Context.moduleOfCrate
    simp only [Context.over_settings, h.moduleBelow, h.moduleInSubdirectories]
  unfold Context.moduleInCrates
  simp only [Context.over_settings, h.subdirectories, hcrate]

theorem moduleInWorkspace (root : Path) (name subPath : String) :
    (c.over other).moduleInWorkspace root name subPath = c.moduleInWorkspace root name subPath := by
  unfold Context.moduleInWorkspace
  simp only [h.table, h.moduleDeclared, h.moduleInCrates]

variable (hparent : file'.parent = file.parent)
include hparent

theorem workspaceRoot : (c.over other).workspaceRoot file' = c.workspaceRoot file := by
  unfold Context.workspaceRoot workspaceRoot?
  simp only [Context.over_settings, hparent, h.isFile, h.isWorkspaceManifest]

theorem projectRoot : (c.over other).projectRoot file' = c.projectRoot file := by
  unfold Context.projectRoot projectRoot?
  simp only [Context.over_settings, hparent, h.isDirectory]

theorem namespaced (name : String) (segments : List String) :
    (c.over other).namespaced file' name segments = c.namespaced file name segments := by
  unfold Context.namespaced Context.externalPackage? Context.moduleInWorkspaceOf
    Context.moduleInProject
  simp only [Context.over_settings, h.registryModule, h.workspaceRoot hparent,
    h.projectRoot hparent, h.moduleInWorkspace, h.moduleBelow]

theorem aliased (segments : List String) :
    (c.over other).aliased file' segments = c.aliased file segments := by
  unfold Context.aliased Context.moduleIfDirectory
  simp only [Context.over_settings, hparent, h.isDirectory, h.moduleBelow]

theorem bare (name : String) : (c.over other).bare file' name = c.bare file name := by
  unfold Context.bare Context.bareBases
  simp only [Context.over_settings, hparent, h.moduleBelow]

theorem byRule (rule : ImportRule) : (c.over other).byRule file' rule = c.byRule file rule := by
  cases rule with
  | namespaced name rest => exact h.namespaced hparent name rest
  | stdlib rest =>
      simp only [Context.byRule, Context.stdlib, Context.over_settings, h.registryModule]
  | «alias» rest => exact h.aliased hparent rest
  | bare name => exact h.bare hparent name
  | unsupported => rfl

theorem freshResolution (localName localName' expression : String) :
    (c.over other).freshResolution file' localName' expression =
      c.freshResolution file localName expression := by
  rw [freshResolution_eq, freshResolution_eq]
  unfold Context.resolution
  rw [h.byRule hparent]

end SeesAlike

/-! ## The same outline -/

/-- Directories are listed in any order that the operating system likes. It matters in one
case, the versions of a package in an index directory of the registry: those that share a
place in the order of versions, and those that have none, are listed in the same order. -/
def VersionsAlike (c : Context) (other : FileTree) : Prop :=
  ∀ {root : Path} {index : String} {names names' : List String},
    Registry.root c.world c.registryRoot? = .ok root →
    c.world.list ((sourcesOf root).below [index]) = .ok names →
    (c.over other).world.list ((sourcesOf root).below [index]) = .ok names' →
    ∀ package : String, VersionKey.TiedAlike
      (names.filter fun name => (package ++ "-").toList.isPrefixOf name.toList)
      (names'.filter fun name => (package ++ "-").toList.isPrefixOf name.toList)

theorem versionsAlike_of_keys {c : Context} {other : FileTree} {named : String → Prop}
    (houtline : c.world.tree.SameOutline named other)
    (hkeys : other.nodes.keys = c.world.tree.nodes.keys) : VersionsAlike c other := by
  intro root index names names' _ hlist hlist' package
  have hsame : (c.over other).world.list ((sourcesOf root).below [index]) =
    c.world.list ((sourcesOf root).below [index]) := houtline.list_eq_of_keys hkeys
  rw [hsame, hlist] at hlist'
  obtain rfl : names = names' := Except.ok.inj hlist'
  exact fun _ => rfl

section

variable {c : Context} {other : FileTree} {named : String → Prop} (htree : c.world.tree.Sound)
  (hother : other.Sound) (houtline : c.world.tree.SameOutline named other)
include htree hother houtline

theorem subdirectories_of_sameOutline (p : Path) :
    Workspace.subdirectories (c.over other).world p = Workspace.subdirectories c.world p :=
  subdirectories_congr (houtline.list_ok htree hother) houtline.list_error
    fun _ => houtline.isDirectory_eq

variable (hversions : VersionsAlike c other)
include hversions

theorem versions_of_sameOutline {root : Path}
    (hroot : Registry.root c.world c.registryRoot? = .ok root) (package index : String) :
    Registry.versions (c.over other).world package ((sourcesOf root).below [index]) =
      Registry.versions c.world package ((sourcesOf root).below [index]) := by
  unfold Registry.versions
  cases hlist : c.world.list ((sourcesOf root).below [index]) with
  | error fault =>
      have hlist' : (c.over other).world.list ((sourcesOf root).below [index]) = .error fault :=
        houtline.list_error hlist
      rw [hlist']
  | ok names =>
      obtain ⟨names', hlist', -⟩ := houtline.list_ok htree hother hlist
      replace hlist' : (c.over other).world.list ((sourcesOf root).below [index]) = .ok names' :=
        hlist'
      rw [hlist']
      exact (hversions hroot hlist hlist' package).descending_eq

theorem registryModule_of_sameOutline (package subPath : String) :
    (c.over other).registryModule package subPath = c.registryModule package subPath := by
  cases hroot : Registry.root c.world c.registryRoot? with
  | error fault =>
      have hroot' : Registry.root (c.over other).world (c.over other).registryRoot? =
        .error fault := hroot
      rw [registryModule_eq, registryModule_eq, hroot, hroot']
      rfl
  | ok root =>
      have hroot' : Registry.root (c.over other).world (c.over other).registryRoot? =
        .ok root := hroot
      have hpackage : (c.over other).packageModule package subPath (sourcesOf root) =
          c.packageModule package subPath (sourcesOf root) := by
        unfold Context.packageModule
        rw [subdirectories_of_sameOutline htree hother houtline]
        refine bind_congr_of_ok fun indexes hindexes => firstHit_congr fun indexDir hindex => ?_
        obtain ⟨-, index, -, -, rfl, -⟩ := exists_of_mem_subdirectories hindexes hindex
        unfold Registry.findInIndex findModule
        rw [versions_of_sameOutline htree hother houtline hversions hroot]
        have hfile : ∀ p, (c.over other).world.isFile p = c.world.isFile p :=
          fun _ => houtline.isFile_eq
        simp only [Context.over_settings, hfile]
      have hdirectory : (c.over other).world.isDirectory (sourcesOf root) =
        c.world.isDirectory (sourcesOf root) := houtline.isDirectory_eq
      rw [registryModule_of_root hroot, registryModule_of_root hroot', hpackage, hdirectory]

end

/-- Over two trees with the same files and directories, in which build scripts and workspace
manifests have the same contents, new sessions resolve an import alike from all files of a
directory, under all local names. -/
theorem freshResolution_of_sameOutline {c : Context} {other : FileTree}
    (htree : c.world.tree.Sound) (hother : other.Sound)
    (hscript : IsPlainName c.settings.layout.buildScript)
    (hmanifest : IsPlainName c.settings.layout.workspaceManifest)
    (houtline : c.world.tree.SameOutline
      (· ∈ [c.settings.layout.buildScript, c.settings.layout.workspaceManifest]) other)
    (hversions : VersionsAlike c other) {file file' : Path} (hparent : file'.parent = file.parent)
    (localName localName' expression : String) :
    (c.over other).freshResolution file' localName' expression =
      c.freshResolution file localName expression := by
  have hsees : SeesAlike c other := by
    refine ⟨fun _ => houtline.isFile_eq, fun _ => houtline.isDirectory_eq,
      subdirectories_of_sameOutline htree hother houtline, fun directory => ?_, fun crateDir => ?_,
      registryModule_of_sameOutline htree hother houtline hversions⟩
    · have htext : (c.over other).world.readText
            (directory / c.settings.layout.workspaceManifest) =
          c.world.readText (directory / c.settings.layout.workspaceManifest) :=
        houtline.readText_eq hmanifest (by simp) directory
      unfold Workspace.isWorkspaceManifest
      rw [htext]
    · have htext : (c.over other).world.readText (crateDir / c.settings.layout.buildScript) =
          c.world.readText (crateDir / c.settings.layout.buildScript) :=
        houtline.readText_eq hscript (by simp) crateDir
      unfold NamespaceTable.bindingsOf
      rw [htext]
  exact hsees.freshResolution hparent localName localName' expression

def rewrittenModule : FileTree :=
  ⟨crateWorkspace.world.tree.nodes.insert ["w", "crates", "k", "asm", "ns", "m.masm"]
    (.file "proc p\nend\n".toUTF8)⟩

theorem freshResolution_rewrittenModule :
    crateWorkspace.world.tree.Sound ∧ rewrittenModule.Sound ∧
      IsPlainName "build.rs" ∧ IsPlainName "Cargo.toml" ∧
      crateWorkspace.world.tree.SameOutline (· ∈ ["build.rs", "Cargo.toml"]) rewrittenModule ∧
      VersionsAlike crateWorkspace rewrittenModule ∧
      (crateWorkspace.over rewrittenModule).freshResolution ⟨.slash, ["w", "y.masm"]⟩ "n"
          "miden::ns::m" =
        crateWorkspace.freshResolution ⟨.slash, ["w", "x.masm"]⟩ "m" "miden::ns::m" ∧
      crateWorkspace.freshResolution ⟨.slash, ["w", "x.masm"]⟩ "m" "miden::ns::m" =
        .ok (some ⟨.slash, ["w", "crates", "k", "asm", "ns", "m.masm"]⟩) := by
  have hsound : crateWorkspace.world.tree.Sound := by decide +kernel
  have hsound' : rewrittenModule.Sound := by decide +kernel
  have hscript : IsPlainName "build.rs" := ⟨by decide, by decide, by decide, by decide⟩
  have hmanifest : IsPlainName "Cargo.toml" := ⟨by decide, by decide, by decide, by decide⟩
  have houtline : crateWorkspace.world.tree.SameOutline (· ∈ ["build.rs", "Cargo.toml"])
      rewrittenModule := by decide +kernel
  have hversions : VersionsAlike crateWorkspace rewrittenModule :=
    versionsAlike_of_keys houtline (by decide +kernel)
  have hparent :
      (Path.mk .slash ["w", "y.masm"]).parent = (Path.mk .slash ["w", "x.masm"]).parent := rfl
  have hsame := freshResolution_of_sameOutline hsound hsound' hscript hmanifest houtline hversions
    hparent "m" "n" "miden::ns::m"
  exact ⟨hsound, hsound', hscript, hmanifest, houtline, hversions, hsame, by decide +kernel⟩

end AsmNavigator.Session
