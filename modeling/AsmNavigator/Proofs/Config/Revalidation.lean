import AsmNavigator.Proofs.Config.Precedence
import AsmNavigator.Proofs.Files.Home
import AsmNavigator.Proofs.Schema.ReadBack

/-! # Settings that are validated again

Validation rewrites what it is given: home directories are expanded, paths are shown in their
normal form, and truth values, floats and texts become integers. What it accepts once it
accepts again, written as data, and a second time it rewrites nothing.
-/

namespace AsmNavigator.Config

open Schema

/-! ## What all accepted settings satisfy -/

/-- A stream by name, or an absolute path as it is shown. -/
def IsDestination (s : String) : Prop :=
  isStreamName s = true ∨ ∃ p : Path, p.isAbsolute = true ∧ p.IsClean ∧ s = p.toString

theorem isDestination_of_destination {env : Environment} {value : Value} {s : String}
    (h : destination env value = .valid s) : IsDestination s := by
  obtain ⟨written, -, h⟩ := Check.andThen_eq_valid.mp h
  split at h
  · next hstream =>
      cases h
      exact .inl hstream
  · split at h
    · cases h
    · next path hexpanded =>
        split at h
        · next habsolute =>
            cases h
            have hclean := Environment.isClean_expandHome hexpanded (Path.isClean_ofString written)
            exact .inr ⟨path, habsolute, hclean, rfl⟩
        · cases h

/-- What validation makes of every input that it accepts. -/
structure Settings.IsSound (settings : Settings) : Prop where
  destinations : ∀ output ∈ settings.logging.outputs, IsDestination output.destination
  extension : settings.layout.moduleExtension.toList.head? = some '.'
  rootDepth : 1 ≤ settings.layout.maxRootDepth
  aliasDepth : 1 ≤ settings.layout.maxAliasDepth
  namespaces : settings.registry.externalNamespaces.keys.Nodup

/-- The built-in values need no check. -/
theorem Settings.isSound_builtIn : Settings.IsSound {} where
  destinations output houtput := by
    cases List.mem_singleton.mp houtput
    exact .inl rfl
  extension := rfl
  rootDepth := by decide
  aliasDepth := by decide
  namespaces := by decide

theorem LogOutput.isDestination_of_check {env : Environment} {value : Value} {output : LogOutput}
    (h : LogOutput.check env value = .valid output) : IsDestination output.destination := by
  obtain ⟨entries, -, hfields⟩ := record_eq_valid h
  simp only [Check.seq_eq_valid, Check.map_eq_valid] at hfields
  obtain ⟨_, _, ⟨_, destination, ⟨_, -, rfl⟩, hdestination, rfl⟩, -, rfl⟩ := hfields
  exact property_of_field hdestination (.inl rfl) fun _ => isDestination_of_destination

theorem Logging.isDestination_of_check {env : Environment} {value : Value} {logging : Logging}
    (h : Logging.check env value = .valid logging) :
    ∀ output ∈ logging.outputs, IsDestination output.destination := by
  obtain ⟨entries, -, hfields⟩ := record_eq_valid h
  simp only [Check.seq_eq_valid, Check.map_eq_valid] at hfields
  obtain ⟨_, outputs, ⟨_, -, rfl⟩, houtputs, rfl⟩ := hfields
  refine property_of_field (P := fun outputs => ∀ output ∈ outputs,
    IsDestination output.destination) houtputs Settings.isSound_builtIn.destinations ?_
  intro found hfound output houtput
  obtain ⟨item, hitem⟩ := exists_of_mem_list hfound houtput
  exact LogOutput.isDestination_of_check hitem

theorem Registry.nodup_namespaces_of_check {value : Value} {registry : Registry}
    (h : Registry.check value = .valid registry) : registry.externalNamespaces.keys.Nodup := by
  obtain ⟨entries, -, hfields⟩ := record_eq_valid h
  simp only [Check.seq_eq_valid, Check.map_eq_valid] at hfields
  obtain ⟨_, _, ⟨_, namespaces, ⟨_, _, ⟨_, -, rfl⟩, -, rfl⟩, hnamespaces, rfl⟩, -, rfl⟩ := hfields
  exact property_of_field (P := fun namespaces : OrderedMap String String => namespaces.keys.Nodup)
    hnamespaces Settings.isSound_builtIn.namespaces fun _ => nodup_keys_of_textMap

theorem extension_of_check {value : Value} {s : String} (h : extension value = .valid s) :
    s.toList.head? = some '.' := by
  obtain ⟨written, -, h⟩ := Check.andThen_eq_valid.mp h
  split at h
  · next hdot =>
      cases h
      exact hdot
  · cases h

theorem depth_of_check {value : Value} {n : Nat} (h : depth value = .valid n) : 1 ≤ n := by
  obtain ⟨written, -, h⟩ := Check.andThen_eq_valid.mp h
  split at h
  · cases h
    omega
  · cases h

/-- A property of the built-in value and of all that the check accepts is one of the setting. -/
theorem Setting.property_of_ofEntries {env : Environment} {entries : List (Scalar × Value)}
    {settings : Settings} (h : Settings.ofEntries env entries = .valid settings) (σ : Setting)
    {P : σ.Accepted → Prop} (hbuiltIn : P (σ.get {}))
    (hcheck : ∀ value a, σ.check value = .valid a → P a) : P (σ.get settings) := by
  have hsetting := setting_of_ofEntries h σ
  split at hsetting
  · next value _ => exact hcheck value _ hsetting
  · rw [hsetting]
    exact hbuiltIn

theorem Settings.isSound_of_ofEntries {env : Environment} {entries : List (Scalar × Value)}
    {settings : Settings} (h : Settings.ofEntries env entries = .valid settings) :
    settings.IsSound := by
  have hextension := Setting.property_of_ofEntries h .moduleExtension
    (P := fun s : String => s.toList.head? = some '.') Settings.isSound_builtIn.extension
    fun _ _ => extension_of_check
  have hroot := Setting.property_of_ofEntries h .maxRootDepth (P := fun n : Nat => 1 ≤ n)
    Settings.isSound_builtIn.rootDepth fun _ _ => depth_of_check
  have halias := Setting.property_of_ofEntries h .maxAliasDepth (P := fun n : Nat => 1 ≤ n)
    Settings.isSound_builtIn.aliasDepth fun _ _ => depth_of_check
  unfold Settings.ofEntries at h
  simp only [Check.seq_eq_valid, Check.map_eq_valid] at h
  obtain ⟨_, registry, ⟨_, layout, ⟨logging, hlogging, rfl⟩, -, rfl⟩, hregistry, rfl⟩ := h
  refine ⟨?_, hextension, hroot, halias, ?_⟩
  · exact property_of_field (P := fun logging : Logging =>
      ∀ output ∈ logging.outputs, IsDestination output.destination) hlogging
      Settings.isSound_builtIn.destinations fun _ => Logging.isDestination_of_check
  · exact property_of_field (P := fun registry : Registry =>
      registry.externalNamespaces.keys.Nodup) hregistry
      Settings.isSound_builtIn.namespaces fun _ => Registry.nodup_namespaces_of_check

/-! ## Reading settings back -/

theorem readsBack_level (level : LogLevel) :
    ReadsBack (option LogLevel.options) (fun level => .text level.name) level :=
  readsBack_option (by cases level <;> decide)

theorem readsBack_format (format : LogFormat) :
    ReadsBack (option LogFormat.options) (fun format => .text format.name) format :=
  readsBack_option (by cases format <;> decide)

/-- A destination is rewritten at most once: an absolute path has no home directory left. -/
theorem readsBack_destination (env : Environment) {s : String} (h : IsDestination s) :
    ReadsBack (destination env) .text s := by
  unfold ReadsBack destination
  refine Check.andThen_eq_valid.mpr ⟨s, readsBack_text s, ?_⟩
  by_cases hstream : isStreamName s = true
  · rw [if_pos hstream]
  · obtain ⟨p, habsolute, hclean, rfl⟩ := h.resolve_left hstream
    rw [if_neg hstream, Path.ofString_toString hclean,
      Environment.expandHome_of_isAbsolute habsolute]
    simp only [if_pos habsolute]

theorem readsBack_extension {s : String} (h : s.toList.head? = some '.') :
    ReadsBack extension .text s := by
  unfold ReadsBack extension
  exact Check.andThen_eq_valid.mpr ⟨s, readsBack_text s, if_pos h⟩

theorem readsBack_depth {n : Nat} (h : 1 ≤ n) : ReadsBack depth (fun n => .int n) n := by
  have hint : (1 : Int) ≤ n := by omega
  unfold ReadsBack depth
  refine Check.andThen_eq_valid.mpr ⟨n, rfl, ?_⟩
  rw [if_pos hint, Int.toNat_natCast]

theorem LogOutput.readsBack (env : Environment) {output : LogOutput}
    (h : IsDestination output.destination) :
    ReadsBack (LogOutput.check env) LogOutput.toValue output := by
  have hformat := readsBack_format output.format
  have hdestination := readsBack_destination env h
  have hlevel := readsBack_optional output.level? (fun _ => rfl) fun a _ => readsBack_level a
  unfold ReadsBack at *
  -- Every field is found where it is written; what is left puts accepted parts together.
  simp only [LogOutput.check, record, LogOutput.toValue, opened_object, field_object_self,
    field_object_of_ne, ne_eq, String.reduceEq, not_false_eq_true, hformat, hdestination, hlevel]
  rfl

theorem Logging.readsBack (env : Environment) {logging : Logging}
    (h : ∀ output ∈ logging.outputs, IsDestination output.destination) :
    ReadsBack (Logging.check env) Logging.toValue logging := by
  have hlevel := readsBack_level logging.level
  have houtputs := readsBack_list _ fun output houtput => LogOutput.readsBack env (h output houtput)
  unfold ReadsBack at *
  simp only [Logging.check, record, Logging.toValue, opened_object, field_object_self,
    field_object_of_ne, ne_eq, String.reduceEq, not_false_eq_true, hlevel, houtputs]
  rfl

theorem Layout.readsBack {layout : Layout}
    (hextension : layout.moduleExtension.toList.head? = some '.')
    (hroot : 1 ≤ layout.maxRootDepth) (halias : 1 ≤ layout.maxAliasDepth) :
    ReadsBack Layout.check Layout.toValue layout := by
  have hextension := readsBack_extension hextension
  have hroot := readsBack_depth hroot
  have halias := readsBack_depth halias
  unfold ReadsBack at *
  simp only [Layout.check, record, Layout.toValue, opened_object, field_object_self,
    field_object_of_ne, ne_eq, String.reduceEq, not_false_eq_true, hextension, hroot, halias]
  rfl

theorem Registry.readsBack {registry : Registry} (h : registry.externalNamespaces.keys.Nodup) :
    ReadsBack Registry.check Registry.toValue registry := by
  have hroot := readsBack_optional registry.root? (fun _ => rfl) fun s _ => readsBack_text s
  have hnamespaces := readsBack_textMap h
  have hkeywords := readsBack_list registry.excludedDirKeywords fun s _ => readsBack_text s
  unfold ReadsBack at *
  simp only [Registry.check, record, Registry.toValue, Value.texts, opened_object,
    field_object_self, field_object_of_ne, ne_eq, String.reduceEq, not_false_eq_true, hroot,
    hnamespaces, hkeywords]
  rfl

/-- Sound settings, written as data, stand for themselves. -/
theorem Settings.readsBack (env : Environment) {settings : Settings} (h : settings.IsSound) :
    ReadsBack (Settings.check env) Settings.toValue settings := by
  have hlogging := Logging.readsBack env h.destinations
  have hlayout := Layout.readsBack h.extension h.rootDepth h.aliasDepth
  have hregistry := Registry.readsBack h.namespaces
  unfold ReadsBack at *
  simp only [Settings.check, Settings.ofEntries, record, Settings.toValue, opened_object,
    field_object_self, field_object_of_ne, ne_eq, String.reduceEq, not_false_eq_true, hlogging,
    hlayout, hregistry]
  rfl

/-! ## Validating twice -/

/-- Settings that a further validation accepts and leaves as they are, with the rules that they
meet. -/
structure Settings.IsSettled (env : Environment) (settings : Settings) : Prop where
  again : Settings.check env settings.toValue = .valid settings
  extension : settings.layout.moduleExtension.toList.head? = some '.'
  rootDepth : 1 ≤ settings.layout.maxRootDepth
  aliasDepth : 1 ≤ settings.layout.maxAliasDepth
  destination : ∀ output ∈ settings.logging.outputs,
    output.destination = "stderr" ∨ output.destination = "stdout" ∨
      (Path.ofString output.destination).isAbsolute = true

theorem Settings.IsSound.isSettled (env : Environment) {settings : Settings}
    (h : settings.IsSound) : settings.IsSettled env where
  again := Settings.readsBack env h
  extension := h.extension
  rootDepth := h.rootDepth
  aliasDepth := h.aliasDepth
  destination output houtput := by
    rcases h.destinations output houtput with hstream | ⟨p, habsolute, hclean, htext⟩
    · simp only [isStreamName, Bool.or_eq_true, decide_eq_true_eq] at hstream
      exact hstream.imp_right .inl
    · rw [htext, Path.ofString_toString hclean]
      exact .inr (.inr habsolute)

/-- Whatever is accepted is settled, and so is whatever is loaded: validating what was loaded
once more neither fails nor changes a value. -/
theorem isSettled_of_validated (env : Environment) :
    (∀ (value : Value) (settings : Settings),
      Settings.check env value = .valid settings → settings.IsSettled env) ∧
    ∀ (w : World) (userFile : Path) (root? : Option Path) (given : List (Scalar × Value))
      (settings : Settings), w.env = env →
        load w userFile root? given = .ok settings → settings.IsSettled env := by
  constructor
  · intro value settings h
    obtain ⟨entries, -, hentries⟩ := record_eq_valid h
    exact (Settings.isSound_of_ofEntries hentries).isSettled env
  · rintro w userFile root? given settings rfl h
    obtain ⟨sources, hcombine⟩ := exists_combine_of_load h
    exact (Settings.isSound_of_ofEntries (ofEntries_of_combine hcombine)).isSettled w.env

def homeWorld : World where
  tree := ⟨⟨[]⟩⟩
  env := ⟨⟨[("HOME", "/h/")]⟩, ⟨.slash, []⟩, [], 0⟩

def looseEntries : List (Scalar × Value) :=
  [(.text "logging", .object [("outputs", .list
      [.object [("destination", "~/./log//a"), ("level", "INFO")],
        .object [("format", "json"), ("destination", .scalar (.bytes "stdout".toUTF8.toList))]])]),
    (.text "layout", .object [("max_root_depth", " +01_0.00"), ("max_alias_depth", .bool true)]),
    (.text "registry", .object [("excluded_dir_keywords", .set [.text "NOTE"]), ("other", .null)])]

def strictSettings : Settings where
  logging := { outputs := [⟨.console, "/h/log/a", some .info⟩, ⟨.json, "stdout", none⟩] }
  layout := { maxRootDepth := 10, maxAliasDepth := 1 }
  registry := { excludedDirKeywords := ["NOTE"] }

theorem isSettled_strictSettings :
    Settings.check homeWorld.env (.map looseEntries) = .valid strictSettings ∧
      strictSettings.IsSettled homeWorld.env ∧
      load homeWorld ⟨.slash, ["u.yaml"]⟩ none looseEntries = .ok strictSettings ∧
      Settings.check homeWorld.env strictSettings.toValue = .valid strictSettings := by
  have hchecked : Settings.check homeWorld.env (.map looseEntries) = .valid strictSettings := by
    have haccepted : (match Settings.check homeWorld.env (.map looseEntries) with
        | .valid settings => some settings
        | _ => none) = some strictSettings := by
      decide +kernel
    split at haccepted
    · next settings h =>
        cases haccepted
        exact h
    · cases haccepted
  have hloaded : load homeWorld ⟨.slash, ["u.yaml"]⟩ none looseEntries = .ok strictSettings :=
    eq_ok_of_toOption (by decide +kernel)
  obtain ⟨hvalidated, hrun⟩ := isSettled_of_validated homeWorld.env
  have hagain := hrun homeWorld ⟨.slash, ["u.yaml"]⟩ none looseEntries _ rfl hloaded
  exact ⟨hchecked, hvalidated _ _ hchecked, hloaded, hagain.again⟩

end AsmNavigator.Config
