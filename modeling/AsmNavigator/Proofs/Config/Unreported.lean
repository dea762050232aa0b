import AsmNavigator.CommandLine.Run
import AsmNavigator.Proofs.Config.Precedence
import AsmNavigator.Proofs.Config.ValidationFaults
import AsmNavigator.Proofs.Files.Refusal
import AsmNavigator.Proofs.Source.Recognisers

/-! # Problems with settings that are not reported

Settings that cannot be loaded are reported as a problem of the configuration, or loading
ends in another fault, which the command line does not expect. What leads to such a fault is
described here source by source: by paths, file contents, variables, keys and destinations.
-/

namespace AsmNavigator

/-- A document is reported to be malformed, and nothing else about it is. -/
theorem Yaml.Fault.kind?_eq_none_iff {cause : Yaml.Fault} :
    cause.kind? = none ↔ cause = .malformed ∨ cause = .unfinished := by
  cases cause <;> simp [Yaml.Fault.kind?]

namespace Config

open Schema

/-- What is wrong with a configuration file if loading it ends in a fault without a report. -/
inductive UnreportedFile (w : World) (path : Path) : LoadFault → Prop where
  | overLong (hlong : path.IsOverLong w.env.cwd)
      (hrefused : w.exists? path = .error (.os .nameTooLong path.toString)) :
      UnreportedFile w path (.faulty (.os .nameTooLong path.toString))
  | directory (h : w.isDirectory path = .ok true) :
      UnreportedFile w path (.faulty (.os .isADirectory path.toString))
  /-- The content is no text, or holds a value that cannot be. -/
  | content {bytes : ByteArray} {cause : Yaml.Fault} (hbytes : w.readBytes path = .ok bytes)
      (hread : Yaml.read (.ofBytes bytes) = .error cause) (hmalformed : cause ≠ .malformed)
      (hunfinished : cause ≠ .unfinished) :
      UnreportedFile w path (.unreadable path.toString cause)

/-- What a configuration file gives, by what stands at its path. -/
theorem fileEntries_eq (w : World) (path : Path) :
    fileEntries w path =
      match w.tree.stat w.env.cwd path with
      | .ok (.file bytes) => documentEntries path (.ofBytes bytes)
      | .ok .directory => .error (.faulty (.os .isADirectory path.toString))
      | .error (.os .nameTooLong text) => .error (.faulty (.os .nameTooLong text))
      | .error _ => .ok [] := by
  unfold fileEntries World.exists? World.readBytes FileTree.exists? FileTree.readBytes
    FileTree.probe
  cases hstat : w.tree.stat w.env.cwd path with
  | ok entry => cases entry <;> rfl
  | error fault =>
      cases fault with
      | os cause text => cases cause <;> rfl
      | _ => rfl

theorem UnreportedFile.fileEntries {w : World} {path : Path} {fault : LoadFault}
    (h : UnreportedFile w path fault) :
    Config.fileEntries w path = .error fault ∧ fault.report? = none := by
  cases h with
  | overLong hlong hrefused =>
      unfold Config.fileEntries
      rw [hrefused]
      exact ⟨rfl, rfl⟩
  | directory h =>
      rw [fileEntries_eq, FileTree.isDirectory_iff.mp h]
      exact ⟨rfl, rfl⟩
  | @content bytes cause hbytes hread hmalformed hunfinished =>
      have hstat : w.tree.stat w.env.cwd path = .ok (.file bytes) := by
        obtain ⟨entry, hstat, hentry⟩ := bind_eq_ok.mp hbytes
        cases entry with
        | file content =>
            cases hentry
            exact hstat
        | directory => cases hentry
      have hkind : cause.kind?.isSome = true := by
        rw [Option.isSome_iff_ne_none, ne_eq, Yaml.Fault.kind?_eq_none_iff, not_or]
        exact ⟨hmalformed, hunfinished⟩
      rw [fileEntries_eq, hstat]
      unfold documentEntries
      simp only [hread]
      exact ⟨trivial, if_pos hkind⟩

/-! ## Variables -/

/-- A variable of a section whose text is no JSON. -/
structure IsUnreadable (env : Environment) (cause : Variables.Unreadable)
    (entry : String × String) : Prop where
  found : entry ∈ Variables.lowered env
  ofSection : (Variables.family ++ cause.sectionName).toList <+: entry.1.toList
  refused : Json.read env.nesting entry.2 = .error cause.fault

def HasTextKeys (entries : List (Scalar × Value)) : Prop :=
  ∀ entry ∈ entries, ∃ name, entry.1 = .text name

theorem hasTextKeys_put {key : Scalar} {value : Value} {entries : List (Scalar × Value)} :
    HasTextKeys (Scalar.put key value entries) ↔
      HasTextKeys entries ∧ ∃ name, key = .text name := by
  induction entries with
  | nil => simp [Scalar.put, HasTextKeys]
  | cons entry rest ih =>
      obtain ⟨k, v⟩ := entry
      unfold HasTextKeys at ih ⊢
      by_cases hsame : k.identity = key.identity
      · -- The key that is there stays, and it is a text if and only if the new one is.
        have htext : (∃ name, k = .text name) ↔ ∃ name, key = .text name := by
          constructor
          · rintro ⟨name, rfl⟩
            exact ⟨name, (Scalar.identity_eq_text_iff key name).mp hsame.symm⟩
          · rintro ⟨name, rfl⟩
            exact ⟨name, (Scalar.identity_eq_text_iff k name).mp hsame⟩
        simp only [Scalar.put, if_pos hsame, List.forall_mem_cons]
        tauto
      · simp only [Scalar.put, if_neg hsame, List.forall_mem_cons]
        rw [ih, and_assoc]

theorem hasTextKeys_mergeEntries (base later : List (Scalar × Value)) :
    HasTextKeys (Value.mergeEntries base later) ↔ HasTextKeys base ∧ HasTextKeys later := by
  induction later generalizing base with
  | nil => simp [Value.mergeEntries, HasTextKeys]
  | cons entry rest ih =>
      obtain ⟨key, value⟩ := entry
      rw [Value.mergeEntries, ih, hasTextKeys_put, and_assoc]
      simp only [HasTextKeys, List.forall_mem_cons]

/-- Merging keeps every key that is no text. -/
theorem hasTextKeys_merged (sources : List (List (Scalar × Value))) :
    HasTextKeys (merged sources) ↔ ∀ source ∈ sources, HasTextKeys source := by
  induction sources with
  | nil => simp [merged, HasTextKeys]
  | cons source rest ih =>
      have hmerged : merged (source :: rest) = Value.mergeEntries source (merged rest) := rfl
      rw [hmerged, hasTextKeys_mergeEntries, ih, List.forall_mem_cons]

/-! ## The sources together -/

/-- What is wrong with the sources together if combining them ends in a fault without a
report. -/
inductive UnreportedWhole (env : Environment) (sources : List (List (Scalar × Value))) :
    LoadFault → Prop where
  | key {source : List (Scalar × Value)} (hsource : source ∈ sources)
      (hkeys : ¬ HasTextKeys source) : UnreportedWhole env sources .badKey
  | home (hkeys : ∀ source ∈ sources, HasTextKeys source)
      (hhome : NamesUnknownHome env (merged sources)) :
      UnreportedWhole env sources (.faulty .noHome)
  /-- The first value that is refused holds a number that is too long to be shown. -/
  | unshowable {issue : Issue} {rest : List Issue}
      (hkeys : ∀ source ∈ sources, HasTextKeys source)
      (hissues : Settings.ofEntriesStrict env (merged sources) =
        .invalid (issue :: rest))
      (hlong : issue.input.isShowable = false) : UnreportedWhole env sources .unshowable

/-- Combining sources, by their keys and by how validation ends. -/
theorem combine_eq (env : Environment) (sources : List (List (Scalar × Value))) :
    (¬ (∀ source ∈ sources, HasTextKeys source) ∧ combine env sources = .error .badKey) ∨
    ((∀ source ∈ sources, HasTextKeys source) ∧ combine env sources =
      match Settings.ofEntriesStrict env (merged sources) with
      | .valid settings => .ok settings
      | .faulty fault => .error (.faulty fault)
      | .invalid [] => .error .badKey
      | .invalid (issue :: _) =>
          if issue.input.isShowable then
            .error (.reported (.invalidSetting issue.field issue.input issue.message))
          else .error .unshowable) := by
  rw [← hasTextKeys_merged]
  unfold combine
  simp only
  split
  · next hall =>
      refine .inl ⟨fun htexts => ?_, rfl⟩
      simp only [Bool.not_eq_true', List.all_eq_false] at hall
      obtain ⟨entry, hentry, hkey⟩ := hall
      obtain ⟨name, hname⟩ := htexts entry hentry
      simp [hname] at hkey
  · next hall =>
      refine .inr ⟨fun entry hentry => ?_, rfl⟩
      simp only [Bool.not_eq_true', Bool.not_eq_false, List.all_eq_true] at hall
      have hkey := hall entry hentry
      split at hkey
      · next name hname => exact ⟨name, hname⟩
      · cases hkey

theorem UnreportedWhole.combine {env : Environment} {sources : List (List (Scalar × Value))}
    {fault : LoadFault} (h : UnreportedWhole env sources fault) :
    Config.combine env sources = .error fault ∧ fault.report? = none := by
  rcases combine_eq env sources with ⟨hbad, hcombine⟩ | ⟨htexts, hcombine⟩
  · cases h with
    | key hsource hkeys => exact ⟨hcombine, rfl⟩
    | home hkeys hhome => exact absurd hkeys hbad
    | unshowable hkeys hissues hlong => exact absurd hkeys hbad
  · rw [hcombine]
    cases h with
    | key hsource hkeys => exact absurd (htexts _ hsource) hkeys
    | home hkeys hhome =>
        rw [ofEntriesStrict_eq_faulty.mpr ⟨rfl, hhome⟩]
        exact ⟨rfl, rfl⟩
    | unshowable hkeys hissues hlong =>
        rw [hissues]
        simp [hlong, LoadFault.report?]

/-! ## Loading -/

/-- What loading reads before it puts the sources together. -/
structure Gathered (w : World) (userFile : Path) (root? : Option Path) (root : Path)
    (user project : List (Scalar × Value)) : Prop where
  ofRoot : configRoot w root? = .ok root
  ofUser : fileEntries w userFile = .ok user
  ofProject : fileEntries w (projectFile root) = .ok project

/-- Loading once the files are read. -/
theorem Gathered.load_eq {w : World} {userFile : Path} {root? : Option Path} {root : Path}
    {user project : List (Scalar × Value)} (h : Gathered w userFile root? root user project)
    (given : List (Scalar × Value)) :
    load w userFile root? given =
      match Variables.entries w.env with
      | .error cause => .error (.badVariable cause)
      | .ok vars => combine w.env [Value.mergeEntries user project, vars, given] := by
  unfold load
  rw [h.ofRoot]
  simp only [bind, Except.bind, h.ofUser, h.ofProject]
  rfl

/-- What is wrong if loading ends in a fault without a report. -/
inductive Unreported (w : World) (userFile : Path) (root? : Option Path)
    (given : List (Scalar × Value)) : LoadFault → Prop where
  | root {path : Path} (hgiven : root? = some path) (hlong : path.IsOverLong w.env.cwd)
      (hrefused : w.isDirectory path = .error (.os .nameTooLong path.toString)) :
      Unreported w userFile root? given (.faulty (.os .nameTooLong path.toString))
  | userFile {root : Path} {fault : LoadFault} (hroot : configRoot w root? = .ok root)
      (hfile : UnreportedFile w userFile fault) : Unreported w userFile root? given fault
  | projectFile {root : Path} {user : List (Scalar × Value)} {fault : LoadFault}
      (hroot : configRoot w root? = .ok root) (huser : fileEntries w userFile = .ok user)
      (hfile : UnreportedFile w (projectFile root) fault) :
      Unreported w userFile root? given fault
  | badVariable {root : Path} {user project : List (Scalar × Value)} {cause : Variables.Unreadable}
      {entry : String × String} (hgathered : Gathered w userFile root? root user project)
      (hentry : IsUnreadable w.env cause entry) (hvars : Variables.entries w.env = .error cause) :
      Unreported w userFile root? given (.badVariable cause)
  | whole {root : Path} {user project vars : List (Scalar × Value)} {fault : LoadFault}
      (hgathered : Gathered w userFile root? root user project)
      (hvars : Variables.entries w.env = .ok vars)
      (hwhole : UnreportedWhole w.env [Value.mergeEntries user project, vars, given] fault) :
      Unreported w userFile root? given fault

theorem Unreported.load {w : World} {userFile : Path} {root? : Option Path}
    {given : List (Scalar × Value)} {fault : LoadFault}
    (h : Unreported w userFile root? given fault) :
    Config.load w userFile root? given = .error fault ∧ fault.report? = none := by
  cases h with
  | root hgiven hlong hrefused =>
      subst hgiven
      unfold Config.load configRoot
      simp only [hrefused]
      exact ⟨rfl, rfl⟩
  | userFile hroot hfile =>
      obtain ⟨hfile, hreport⟩ := hfile.fileEntries
      unfold Config.load
      rw [hroot, hfile]
      exact ⟨rfl, hreport⟩
  | projectFile hroot huser hfile =>
      obtain ⟨hfile, hreport⟩ := hfile.fileEntries
      unfold Config.load
      simp only [bind, Except.bind, hroot, huser, hfile]
      exact ⟨trivial, hreport⟩
  | badVariable hgathered hentry hvars =>
      rw [hgathered.load_eq, hvars]
      exact ⟨rfl, rfl⟩
  | whole hgathered hvars hwhole =>
      obtain ⟨hcombine, hreport⟩ := hwhole.combine
      refine ⟨?_, hreport⟩
      rw [hgathered.load_eq, hvars]
      exact hcombine

end Config

/-! ## The command line -/

namespace CommandLine

open Config

end CommandLine

end AsmNavigator
