import AsmNavigator.Proofs.Config.Variables
import AsmNavigator.Proofs.Data.Document

/-! # Which source a setting comes from

Settings that are loaded hold, setting by setting, what the first source gives that gives
anything: the caller's values, the variables, the project's file, the user's file. A source
that sets other settings, of the same section too, does not matter.
-/

namespace AsmNavigator.Config

open Schema Variables

/-! ## Files -/

theorem isProper_documentEntries {path : Path} {stream : Yaml.Stream}
    {entries : List (Scalar × Value)} (h : documentEntries path stream = .ok entries) :
    (Value.map entries).IsProper := by
  unfold documentEntries at h
  cases hread : Yaml.read stream with
  | error fault =>
      rw [hread] at h
      cases h
  | ok value =>
      have hproper := (Yaml.isProper_of_read hread).opened
      rw [hread] at h
      simp only at h
      split at h
      · next found hopened =>
          cases h
          rwa [hopened] at hproper
      · split at h
        · cases h
          exact Value.isProper_map_nil
        · cases h

theorem isProper_fileEntries {w : World} {path : Path} {entries : List (Scalar × Value)}
    (h : fileEntries w path = .ok entries) : (Value.map entries).IsProper := by
  unfold fileEntries at h
  obtain ⟨found, -, h⟩ := bind_eq_ok.mp h
  cases found with
  | false =>
      cases h
      exact Value.isProper_map_nil
  | true =>
      obtain ⟨bytes, -, h⟩ := bind_eq_ok.mp h
      exact isProper_documentEntries h

/-! ## All sources -/

theorem ofEntries_of_combine {env : Environment} {sources : List (List (Scalar × Value))}
    {settings : Settings} (h : combine env sources = .ok settings) :
    Settings.ofEntries env (merged sources) = .valid settings := by
  unfold combine at h
  simp only at h
  split at h
  · cases h
  · split at h
    · next found hstrict =>
        cases h
        unfold Settings.ofEntriesStrict at hstrict
        obtain ⟨_, _, hmap, -, rfl⟩ := Check.seq_eq_valid.mp hstrict
        obtain ⟨_, hentries, rfl⟩ := Check.map_eq_valid.mp hmap
        exact hentries
    · cases h
    · cases h
    · split at h <;> cases h

theorem combine_of_load {w : World} {userFile : Path} {root? : Option Path}
    {given user project : List (Scalar × Value)} {settings : Settings} {root : Path}
    (hload : load w userFile root? given = .ok settings) (hroot : configRoot w root? = .ok root)
    (huser : fileEntries w userFile = .ok user)
    (hproject : fileEntries w (projectFile root) = .ok project) :
    ∃ vars, Variables.entries w.env = .ok vars ∧
      combine w.env [Value.mergeEntries user project, vars, given] = .ok settings := by
  unfold load at hload
  simp only [hroot, huser, hproject, bind, Except.bind] at hload
  cases hvars : Variables.entries w.env with
  | error cause =>
      rw [hvars] at hload
      cases hload
  | ok vars =>
      rw [hvars] at hload
      exact ⟨vars, rfl, hload⟩

/-- Settings that are loaded are combined from several sources. -/
theorem exists_combine_of_load {w : World} {userFile : Path} {root? : Option Path}
    {given : List (Scalar × Value)} {settings : Settings}
    (hload : load w userFile root? given = .ok settings) :
    ∃ sources, combine w.env sources = .ok settings := by
  obtain ⟨root, hroot, hrest⟩ := bind_eq_ok.mp hload
  obtain ⟨user, huser, hrest⟩ := bind_eq_ok.mp hrest
  obtain ⟨project, hproject, -⟩ := bind_eq_ok.mp hrest
  obtain ⟨vars, -, hcombine⟩ := combine_of_load hload hroot huser hproject
  exact ⟨_, hcombine⟩

/-- The value of a setting in the first source that gives one. -/
def Setting.first? (σ : Setting) (env : Environment) (user project given : List (Scalar × Value)) :
    Option Value :=
  (σ.in? given).or (((σ.ofVariable? env).map Value.text).or ((σ.in? project).or (σ.in? user)))

/-- If settings are loaded, a scalar setting is what its check makes of the value that the
first source gives, or else its built-in value. -/
theorem setting_of_load {w : World} {userFile : Path} {root? : Option Path}
    {given user project : List (Scalar × Value)} {settings : Settings} {root : Path}
    (hload : load w userFile root? given = .ok settings) (hroot : configRoot w root? = .ok root)
    (huser : fileEntries w userFile = .ok user)
    (hproject : fileEntries w (projectFile root) = .ok project)
    (hgiven : (Value.map given).IsProper)
    (hsections : ∀ source ∈ [user, project, given], HasSections source)
    (hvariables : NamesSettings w.env) (σ : Setting) :
    match σ.first? w.env user project given with
    | some value => σ.check value = .valid (σ.get settings)
    | none => σ.get settings = σ.get {} := by
  obtain ⟨vars, hvars, hcombine⟩ := combine_of_load hload hroot huser hproject
  obtain ⟨hvarsSourced, hvarsIn⟩ := Setting.in?_entries hvariables hvars σ
  simp only [List.mem_cons, List.not_mem_nil, or_false, forall_eq_or_imp, forall_eq]
    at hsections
  obtain ⟨huserSections, hprojectSections, hgivenSections⟩ := hsections
  have huserSourced := σ.isSourced_of_isProper (isProper_fileEntries huser) huserSections
  have hprojectSourced := σ.isSourced_of_isProper (isProper_fileEntries hproject) hprojectSections
  have hgivenSourced := σ.isSourced_of_isProper hgiven hgivenSections
  have hsourced : ∀ source ∈ [Value.mergeEntries user project, vars, given],
      σ.IsSourced source := by
    simp only [List.mem_cons, List.not_mem_nil, or_false, forall_eq_or_imp, forall_eq]
    exact ⟨huserSourced.mergeEntries hprojectSourced, hvarsSourced, hgivenSourced⟩
  have hsame : (σ.in? (merged [Value.mergeEntries user project, vars, given])).map
      Value.scalar? = (σ.first? w.env user project given).map Value.scalar? := by
    have hfirst : [Value.mergeEntries user project, vars, given].reverse.findSome? σ.in? =
        (σ.in? given).or ((σ.in? vars).or (σ.in? (Value.mergeEntries user project))) := by
      simp only [List.reverse_cons, List.reverse_nil, List.nil_append, List.cons_append,
        List.findSome?_cons, List.findSome?_nil]
      cases σ.in? given <;> cases σ.in? vars <;> cases σ.in? (Value.mergeEntries user project) <;>
        rfl
    rw [Setting.in?_merged hsourced, hfirst, Setting.first?, ← hvarsIn, Option.map_or,
      Option.map_or, Setting.in?_mergeEntries huserSourced hprojectSourced, ← Option.map_or,
      ← Option.map_or]
  have hvalue := setting_of_ofEntries (ofEntries_of_combine hcombine) σ
  cases hmerged : σ.in? (merged [Value.mergeEntries user project, vars, given]) with
  | none =>
      rw [hmerged] at hvalue hsame
      rw [Option.map_eq_none_iff.mp hsame.symm]
      exact hvalue
  | some value =>
      rw [hmerged] at hvalue hsame
      obtain ⟨s, rfl⟩ := σ.acceptsScalars_check value _ hvalue
      obtain ⟨first, hfirst, hscalar⟩ := Option.map_eq_some_iff.mp hsame.symm
      cases first with
      | scalar t =>
          cases hscalar
          rw [hfirst]
          exact hvalue
      | _ => cases hscalar

/-- A user's file, a project's file and a variable that all set one directory. -/
def layeredWorld : World where
  tree := ⟨⟨[(["u.yaml"], .file "layout: {crates_dir: u}".toUTF8),
    ([".masmnav"], .directory),
    ([".masmnav", "config.yaml"], .file "layout: {crates_dir: p}".toUTF8)]⟩⟩
  env := ⟨⟨[("Masmnav__Layout__Crates_Dir", "v")]⟩, ⟨.slash, []⟩, [], 0⟩

theorem namesSettings_layeredWorld : NamesSettings layeredWorld.env where
  named entry hentry _ := by
    cases List.mem_singleton.mp hentry
    exact ⟨"layout", by decide, "crates_dir", by decide, by decide +kernel⟩
  once entry hentry other hother _ _ := by
    cases List.mem_singleton.mp hentry
    cases List.mem_singleton.mp hother
    rfl

theorem cratesDir_layeredWorld : ∃ settings,
    load layeredWorld ⟨.slash, ["u.yaml"]⟩ none [] = .ok settings ∧
      settings.layout.cratesDir = "v" := by
  have hsource : ∀ path ∈ [(⟨.slash, ["u.yaml"]⟩ : Path), projectFile ⟨.slash, []⟩],
      ∃ source, fileEntries layeredWorld path = .ok source ∧ HasSections source := by
    intro path hpath
    have hholds : ∀ path ∈ [(⟨.slash, ["u.yaml"]⟩ : Path), projectFile ⟨.slash, []⟩],
        ((fileEntries layeredWorld path).toOption.any fun source => decide (HasSections source)) =
          true := by
      decide +kernel
    have hpath := hholds path hpath
    cases hread : fileEntries layeredWorld path with
    | error fault =>
        rw [hread] at hpath
        cases hpath
    | ok source =>
        rw [hread] at hpath
        exact ⟨source, rfl, of_decide_eq_true hpath⟩
  obtain ⟨user, huser, huserSections⟩ := hsource ⟨.slash, ["u.yaml"]⟩ (by simp)
  obtain ⟨project, hproject, hprojectSections⟩ := hsource (projectFile ⟨.slash, []⟩) (by simp)
  have hload : (load layeredWorld ⟨.slash, ["u.yaml"]⟩ none []).isOk = true := by decide +kernel
  cases hsettings : load layeredWorld ⟨.slash, ["u.yaml"]⟩ none [] with
  | error fault =>
      rw [hsettings] at hload
      cases hload
  | ok settings =>
      have hsections : ∀ source ∈ [user, project, []], HasSections source := by
        simp only [List.mem_cons, List.not_mem_nil, or_false, forall_eq_or_imp, forall_eq]
        exact ⟨huserSections, hprojectSections, by decide⟩
      have hvalue := setting_of_load hsettings rfl huser hproject Value.isProper_map_nil hsections
        namesSettings_layeredWorld .cratesDir
      have hfirst : Setting.cratesDir.first? layeredWorld.env user project [] =
          some (.text "v") := by
        have hvariable : Setting.cratesDir.ofVariable? layeredWorld.env = some "v" := by
          decide +kernel
        unfold Setting.first?
        rw [hvariable]
        rfl
      rw [hfirst] at hvalue
      have hvalid : (Check.valid "v" : Check String) = .valid settings.layout.cratesDir := hvalue
      injection hvalid with hsame
      exact ⟨settings, rfl, hsame.symm⟩

end AsmNavigator.Config
