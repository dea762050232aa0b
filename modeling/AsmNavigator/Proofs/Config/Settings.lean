import AsmNavigator.Config.Load
import AsmNavigator.Proofs.Schema.Acceptance

/-! # Single settings

The settings that are scalars, each with its place in a document, its check and its value in
the settings as a whole. Settings that are accepted hold what the document gives, setting by
setting.
-/

namespace AsmNavigator.Config

open Schema

inductive Setting where
  | logLevel
  | moduleExtension
  | moduleIndexFile
  | libraryDir
  | kernelLibDir
  | sharedModulesDir
  | cratesDir
  | buildScript
  | workspaceManifest
  | maxRootDepth
  | maxAliasDepth
  | registryRoot
  | stdlibPackage
  deriving DecidableEq, Repr

namespace Setting

def sectionName : Setting → String
  | logLevel => "logging"
  | registryRoot | stdlibPackage => "registry"
  | _ => "layout"

def name : Setting → String
  | logLevel => "level"
  | moduleExtension => "module_extension"
  | moduleIndexFile => "module_index_file"
  | libraryDir => "library_dir"
  | kernelLibDir => "kernel_lib_dir"
  | sharedModulesDir => "shared_modules_dir"
  | cratesDir => "crates_dir"
  | buildScript => "build_script"
  | workspaceManifest => "workspace_manifest"
  | maxRootDepth => "max_root_depth"
  | maxAliasDepth => "max_alias_depth"
  | registryRoot => "root"
  | stdlibPackage => "stdlib_package"

def Accepted : Setting → Type
  | logLevel => LogLevel
  | maxRootDepth | maxAliasDepth => Nat
  | registryRoot => Option String
  | _ => String

def check : (σ : Setting) → Value → Check σ.Accepted
  | logLevel => option LogLevel.options
  | moduleExtension => extension
  | maxRootDepth => depth
  | maxAliasDepth => depth
  | registryRoot => optional text
  | moduleIndexFile => text
  | libraryDir => text
  | kernelLibDir => text
  | sharedModulesDir => text
  | cratesDir => text
  | buildScript => text
  | workspaceManifest => text
  | stdlibPackage => text

def get (settings : Settings) : (σ : Setting) → σ.Accepted
  | logLevel => settings.logging.level
  | moduleExtension => settings.layout.moduleExtension
  | moduleIndexFile => settings.layout.moduleIndexFile
  | libraryDir => settings.layout.libraryDir
  | kernelLibDir => settings.layout.kernelLibDir
  | sharedModulesDir => settings.layout.sharedModulesDir
  | cratesDir => settings.layout.cratesDir
  | buildScript => settings.layout.buildScript
  | workspaceManifest => settings.layout.workspaceManifest
  | maxRootDepth => settings.layout.maxRootDepth
  | maxAliasDepth => settings.layout.maxAliasDepth
  | registryRoot => settings.registry.root?
  | stdlibPackage => settings.registry.stdlibPackage

def in? (entries : List (Scalar × Value)) (σ : Setting) : Option Value :=
  (OrderedMap.find? (.text σ.sectionName) entries).bind fun value => value.opened.get? σ.name

theorem acceptsScalars_extension : AcceptsScalars extension :=
  acceptsScalars_text.andThen fun value s =>
    if s.toList.head? = some '.' then .valid s
    else .reject (.refused ("Extension must start with '.': " ++ s)) value

theorem acceptsScalars_depth : AcceptsScalars depth := by
  exact acceptsScalars_integer.andThen _

theorem acceptsScalars_check (σ : Setting) : AcceptsScalars σ.check := by
  cases σ with
  | logLevel => exact acceptsScalars_option _
  | moduleExtension => exact acceptsScalars_extension
  | maxRootDepth => exact acceptsScalars_depth
  | maxAliasDepth => exact acceptsScalars_depth
  | registryRoot => exact acceptsScalars_text.optional
  | _ => exact acceptsScalars_text

def field (σ : Setting) (entries : List (Scalar × Value)) : Check σ.Accepted :=
  Schema.field entries σ.name (σ.get {}) σ.check

end Setting

/-! ## Sections -/

theorem Logging.fields_of_check {env : Environment} {value : Value} {logging : Logging}
    (h : Logging.check env value = .valid logging) :
    ∃ entries, value.opened = .map entries ∧ ∀ (settings : Settings) (σ : Setting),
      settings.logging = logging → σ.sectionName = "logging" →
        σ.field entries = .valid (σ.get settings) := by
  obtain ⟨entries, hopened, hfields⟩ := record_eq_valid h
  refine ⟨entries, hopened, ?_⟩
  simp only [Check.seq_eq_valid, Check.map_eq_valid] at hfields
  obtain ⟨_, outputs, ⟨level, hlevel, rfl⟩, houtputs, rfl⟩ := hfields
  rintro ⟨_, layout, registry⟩ σ rfl hsection
  cases σ with
  | logLevel => exact hlevel
  | _ => simp [Setting.sectionName] at hsection

theorem Registry.fields_of_check {value : Value} {registry : Registry}
    (h : Registry.check value = .valid registry) :
    ∃ entries, value.opened = .map entries ∧ ∀ (settings : Settings) (σ : Setting),
      settings.registry = registry → σ.sectionName = "registry" →
        σ.field entries = .valid (σ.get settings) := by
  obtain ⟨entries, hopened, hfields⟩ := record_eq_valid h
  refine ⟨entries, hopened, ?_⟩
  simp only [Check.seq_eq_valid, Check.map_eq_valid] at hfields
  obtain ⟨_, keywords, ⟨_, namespaces, ⟨_, package, ⟨root, hroot, rfl⟩, hpackage, rfl⟩, -, rfl⟩,
    -, rfl⟩ := hfields
  rintro ⟨logging, layout, _⟩ σ rfl hsection
  cases σ with
  | registryRoot => exact hroot
  | stdlibPackage => exact hpackage
  | _ => simp [Setting.sectionName] at hsection

theorem Layout.fields_of_check {value : Value} {layout : Layout}
    (h : Layout.check value = .valid layout) :
    ∃ entries, value.opened = .map entries ∧ ∀ (settings : Settings) (σ : Setting),
      settings.layout = layout → σ.sectionName = "layout" →
        σ.field entries = .valid (σ.get settings) := by
  obtain ⟨entries, hopened, hfields⟩ := record_eq_valid h
  refine ⟨entries, hopened, ?_⟩
  simp only [Check.seq_eq_valid, Check.map_eq_valid] at hfields
  obtain ⟨_, aliasDepth, ⟨_, depth, ⟨_, manifest, ⟨_, script, ⟨_, crates, ⟨_, shared, ⟨_, kernel,
    ⟨_, library, ⟨_, index, ⟨extension, hextension, rfl⟩, hindex, rfl⟩, hlibrary, rfl⟩, hkernel,
    rfl⟩, hshared, rfl⟩, hcrates, rfl⟩, hscript, rfl⟩, hmanifest, rfl⟩, hdepth, rfl⟩, halias,
    rfl⟩ := hfields
  rintro ⟨logging, _, registry⟩ σ rfl hsection
  cases σ with
  | moduleExtension => exact hextension
  | moduleIndexFile => exact hindex
  | libraryDir => exact hlibrary
  | kernelLibDir => exact hkernel
  | sharedModulesDir => exact hshared
  | cratesDir => exact hcrates
  | buildScript => exact hscript
  | workspaceManifest => exact hmanifest
  | maxRootDepth => exact hdepth
  | maxAliasDepth => exact halias
  | _ => simp [Setting.sectionName] at hsection

/-! ## The settings as a whole -/

/-- The value of a setting in a document, by that of its section. -/
theorem setting_of_section {entries : List (Scalar × Value)} {σ : Setting} {settings : Settings}
    (habsent : OrderedMap.find? (.text σ.sectionName) entries = none → σ.get settings = σ.get {})
    (hpresent : ∀ value, OrderedMap.find? (.text σ.sectionName) entries = some value →
      ∃ inner, value.opened = .map inner ∧ σ.field inner = .valid (σ.get settings)) :
    match σ.in? entries with
    | some value => σ.check value = .valid (σ.get settings)
    | none => σ.get settings = σ.get {} := by
  unfold Setting.in?
  cases hsection : OrderedMap.find? (.text σ.sectionName) entries with
  | none => exact habsent hsection
  | some value =>
      obtain ⟨inner, hopened, hfield⟩ := hpresent value hsection
      rw [Option.bind_some, hopened]
      exact field_eq_valid hfield

/-- A setting in the settings that a document stands for: what the document gives to it, or
else its built-in value. -/
theorem setting_of_ofEntries {env : Environment} {entries : List (Scalar × Value)}
    {settings : Settings} (h : Settings.ofEntries env entries = .valid settings) (σ : Setting) :
    match σ.in? entries with
    | some value => σ.check value = .valid (σ.get settings)
    | none => σ.get settings = σ.get {} := by
  unfold Settings.ofEntries at h
  simp only [Check.seq_eq_valid, Check.map_eq_valid] at h
  obtain ⟨_, registry, ⟨_, layout, ⟨logging, hlogging, rfl⟩, hlayout, rfl⟩, hregistry, rfl⟩ := h
  have hlogging := field_eq_valid hlogging
  have hlayout := field_eq_valid hlayout
  have hregistry := field_eq_valid hregistry
  have hsections : σ.sectionName = "logging" ∨ σ.sectionName = "layout" ∨
      σ.sectionName = "registry" := by
    cases σ <;> simp [Setting.sectionName]
  rcases hsections with hsection | hsection | hsection
  all_goals
    refine setting_of_section (fun hfind => ?_) fun value hfind => ?_
    all_goals rw [hsection] at hfind
  · rw [hfind] at hlogging
    subst hlogging
    cases σ <;> first | rfl | exact absurd hsection (by decide)
  · rw [hfind] at hlogging
    obtain ⟨inner, hopened, hfields⟩ := Logging.fields_of_check hlogging
    exact ⟨inner, hopened, hfields _ σ rfl hsection⟩
  · rw [hfind] at hlayout
    subst hlayout
    cases σ <;> first | rfl | exact absurd hsection (by decide)
  · rw [hfind] at hlayout
    obtain ⟨inner, hopened, hfields⟩ := Layout.fields_of_check hlayout
    exact ⟨inner, hopened, hfields _ σ rfl hsection⟩
  · rw [hfind] at hregistry
    subst hregistry
    cases σ <;> first | rfl | exact absurd hsection (by decide)
  · rw [hfind] at hregistry
    obtain ⟨inner, hopened, hfields⟩ := Registry.fields_of_check hregistry
    exact ⟨inner, hopened, hfields _ σ rfl hsection⟩

end AsmNavigator.Config
