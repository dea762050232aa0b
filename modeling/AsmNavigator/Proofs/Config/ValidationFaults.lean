import AsmNavigator.Config.Validate
import AsmNavigator.Proofs.Files.Home
import AsmNavigator.Proofs.Schema.Decision

/-! # How validation ends

Validation accepts settings or says what is wrong with them, with one exception: a log that
goes to a file below a home directory that is not known ends it, whatever else is wrong.
-/

namespace AsmNavigator.Config

open Schema

/-- A destination below a home directory that is not known. -/
def IsHomeless (env : Environment) (value : Value) : Prop :=
  ∃ s, text value = .valid s ∧ env.expandHome (Path.ofString s) = .error .noHome

/-- Entries of settings with such a destination among the outputs of the log. -/
inductive NamesUnknownHome (env : Environment) (entries : List (Scalar × Value)) : Prop where
  | intro {logging outputs output destination : Value}
      (hlogging : OrderedMap.find? (.text "logging") entries = some logging)
      (houtputs : logging.opened.get? "outputs" = some outputs)
      (houtput : output ∈ itemsOf outputs)
      (hdestination : output.opened.get? "destination" = some destination)
      (hhome : IsHomeless env destination)

/-! ## Destinations -/

theorem expandHome_of_isStreamName {env : Environment} {s : String} (h : isStreamName s = true) :
    env.expandHome (Path.ofString s) = .ok (Path.ofString s) := by
  simp only [isStreamName, Bool.or_eq_true, decide_eq_true_eq] at h
  rcases h with rfl | rfl
  · rfl
  · rfl

theorem fault?_destination {env : Environment} {value : Value} {fault : Fault} :
    (destination env value).fault? = some fault ↔ fault = .noHome ∧ IsHomeless env value := by
  rw [Check.fault?_eq_some]
  unfold destination
  constructor
  · intro h
    cases htext : text value with
    | invalid issues =>
        rw [htext] at h
        cases h
    | faulty fault => exact absurd htext (Check.Decides.text value fault)
    | valid s =>
        rw [htext] at h
        simp only [Check.andThen] at h
        split at h
        · cases h
        · split at h
          · next hexpanded =>
              cases h
              have hfault := Environment.eq_noHome_of_expandHome hexpanded
              subst hfault
              exact ⟨rfl, s, htext, hexpanded⟩
          · split at h <;> cases h
  · rintro ⟨rfl, s, htext, hhome⟩
    have hstream : ¬ isStreamName s = true := by
      intro hstream
      rw [expandHome_of_isStreamName hstream] at hhome
      cases hhome
    rw [htext]
    simp only [Check.andThen, if_neg hstream, hhome]

/-! ## Sections -/

theorem fault?_logOutput (env : Environment) (value : Value) :
    (LogOutput.check env value).fault? =
      (value.opened.get? "destination").bind fun value => (destination env value).fault? := by
  unfold LogOutput.check
  rw [fault?_record]
  cases value.opened with
  | map entries =>
      have hformat := (Check.Decides.field (Check.compositional_decides.option LogFormat.options)
        entries "format" ({} : LogOutput).format).fault?
      have hlevel := (Check.Decides.field (Check.Decides.optional
        (Check.compositional_decides.option LogLevel.options)) entries "level"
        ({} : LogOutput).level?).fault?
      simp only [Check.fault?_seq, Check.fault?_map, hformat, hlevel, fault?_field, Option.none_or,
        Option.or_none]
      rfl
  | _ => rfl

theorem fault?_logging (env : Environment) (value : Value) :
    (Logging.check env value).fault? =
      (value.opened.get? "outputs").bind fun outputs =>
        (itemsOf outputs).findSome? fun output => (LogOutput.check env output).fault? := by
  unfold Logging.check
  rw [fault?_record]
  cases value.opened with
  | map entries =>
      have hlevel := (Check.Decides.field (Check.compositional_decides.option LogLevel.options)
        entries "level" ({} : Logging).level).fault?
      simp only [Check.fault?_seq, Check.fault?_map, hlevel, fault?_field, fault?_list,
        Option.none_or]
      rfl
  | _ => rfl

section

variable {J : ∀ {α : Type}, Check α → Prop} (h : Compositional J)
include h

theorem compositional_extension (value : Value) : J (extension value) := by
  refine h.andThen (h.text value) fun s => ?_
  split
  · exact h.valid _
  · exact h.reject _ _

theorem compositional_depth (value : Value) : J (depth value) := by
  refine h.andThen (h.integer value) fun n => ?_
  split
  · exact h.valid _
  · exact h.reject _ _

theorem compositional_layout (value : Value) : J (Layout.check value) := by
  refine h.record (fun entries => ?_) _ _
  have hextension := h.field (compositional_extension h) entries
  have htext := h.field h.text entries
  have hdepth := h.field (compositional_depth h) entries
  exact h.seq (h.seq (h.seq (h.seq (h.seq (h.seq (h.seq (h.seq (h.seq (h.map (hextension _ _) _)
    (htext _ _)) (htext _ _)) (htext _ _)) (htext _ _)) (htext _ _)) (htext _ _)) (htext _ _))
    (hdepth _ _)) (hdepth _ _)

theorem compositional_registry (value : Value) : J (Registry.check value) := by
  refine h.record (fun entries => ?_) _ _
  have hroot := h.field (h.optional h.text) entries
  have hpackage := h.field h.text entries
  have hnamespaces := h.field h.textMap entries
  have hkeywords := h.field (h.list h.text) entries
  exact h.seq (h.seq (h.seq (h.map (hroot _ _) _) (hpackage _ _)) (hnamespaces _ _))
    (hkeywords _ _)

theorem compositional_unknownSections (entries : List (Scalar × Value)) :
    J (unknownSections entries) := by
  induction entries with
  | nil => exact h.valid _
  | cons entry rest ih =>
      unfold unknownSections
      split
      · exact ih
      · exact h.seq (h.map (h.under (h.reject _ _) _) _) ih

end

/-! ## The settings as a whole -/

theorem fault?_ofEntriesStrict (env : Environment) (entries : List (Scalar × Value)) :
    (Settings.ofEntriesStrict env entries).fault? =
      (OrderedMap.find? (.text "logging") entries).bind fun value =>
        (Logging.check env value).fault? := by
  have hlayout := (Check.Decides.field (compositional_layout Check.compositional_decides)
    entries "layout" ({} : Settings).layout).fault?
  have hregistry := (Check.Decides.field (compositional_registry Check.compositional_decides)
    entries "registry" ({} : Settings).registry).fault?
  have hunknown :=
    (compositional_unknownSections Check.compositional_decides entries : Check.Decides _).fault?
  unfold Settings.ofEntriesStrict Settings.ofEntries
  simp only [Check.fault?_seq, Check.fault?_map, hlayout, hregistry, hunknown, fault?_field,
    Option.or_none]

/-- A search whose hits are all the same finds that one. -/
theorem findSome?_eq_some_of_unique {α β : Type} {f : α → Option β} {items : List α} {b : β}
    (hall : ∀ item ∈ items, ∀ found, f item = some found → found = b) {item : α}
    (hitem : item ∈ items) (h : f item = some b) : items.findSome? f = some b := by
  cases hfind : items.findSome? f with
  | none =>
      rw [List.findSome?_eq_none_iff.mp hfind item hitem] at h
      cases h
  | some found =>
      obtain ⟨other, hother, hfound⟩ := List.exists_of_findSome?_eq_some hfind
      rw [hall other hother found hfound]

/-- Validation faults if and only if a destination lies below an unknown home directory. -/
theorem ofEntriesStrict_eq_faulty {env : Environment} {entries : List (Scalar × Value)}
    {fault : Fault} :
    Settings.ofEntriesStrict env entries = .faulty fault ↔
      fault = .noHome ∧ NamesUnknownHome env entries := by
  rw [← Check.fault?_eq_some, fault?_ofEntriesStrict]
  simp only [fault?_logging, fault?_logOutput]
  constructor
  · intro h
    obtain ⟨logging, hlogging, h⟩ := Option.bind_eq_some_iff.mp h
    obtain ⟨outputs, houtputs, h⟩ := Option.bind_eq_some_iff.mp h
    obtain ⟨output, houtput, h⟩ := List.exists_of_findSome?_eq_some h
    obtain ⟨destination, hdestination, h⟩ := Option.bind_eq_some_iff.mp h
    obtain ⟨hfault, hhome⟩ := fault?_destination.mp h
    exact ⟨hfault, hlogging, houtputs, houtput, hdestination, hhome⟩
  · rintro ⟨rfl, hlogging, houtputs, houtput, hdestination, hhome⟩
    rw [hlogging, Option.bind_some, houtputs, Option.bind_some]
    refine findSome?_eq_some_of_unique (fun other _ fault hfault => ?_) houtput ?_
    · obtain ⟨value, -, h⟩ := Option.bind_eq_some_iff.mp hfault
      exact (fault?_destination.mp h).1
    · rw [hdestination, Option.bind_some]
      exact fault?_destination.mpr ⟨rfl, hhome⟩

/-- The unknown home ends validation although the level before it is refused. -/
example : (Settings.ofEntriesStrict ⟨⟨[]⟩, ⟨.slash, []⟩, [], 0⟩
    [(.text "logging", .object [("level", "LOUD"),
      ("outputs", .list [.object [("destination", "~nobody/log")]])])]).fault? = some .noHome := by
  decide +kernel

end AsmNavigator.Config
