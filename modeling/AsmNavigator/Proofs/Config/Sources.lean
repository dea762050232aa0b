import AsmNavigator.Proofs.Config.Settings

/-! # Sources of settings

Sources are merged section by section. A scalar setting in the merge of two sources is that
of the later one, if it has one.
-/

namespace AsmNavigator.Config

open Schema

def HasSections (entries : List (Scalar × Value)) : Prop :=
  ∀ name ∈ Settings.sections, ∀ value, OrderedMap.find? (.text name) entries = some value →
    ∃ inner, value.opened = .map inner

def opensToMap (value : Value) : Bool :=
  match value.opened with
  | .map _ => true
  | _ => false

theorem opensToMap_iff {value : Value} :
    opensToMap value = true ↔ ∃ inner, value.opened = .map inner := by
  unfold opensToMap
  cases value.opened <;> simp

instance (entries : List (Scalar × Value)) : Decidable (HasSections entries) :=
  decidable_of_iff
    (∀ name ∈ Settings.sections,
      (OrderedMap.find? (.text name) entries).all opensToMap = true) <| by
    unfold HasSections
    simp only [Option.all_eq_true, opensToMap_iff]

namespace Setting

theorem sectionName_mem (σ : Setting) : σ.sectionName ∈ Settings.sections := by
  cases σ <;> simp [sectionName, Settings.sections]

/-- A source in which a setting can be looked up and merged: no key is repeated, and its
section is a mapping in which none is either. -/
structure IsSourced (σ : Setting) (entries : List (Scalar × Value)) : Prop where
  keys : (Scalar.identities entries).Nodup
  inner : ∀ value, OrderedMap.find? (.text σ.sectionName) entries = some value →
    ∃ inner, value.HoldsMap inner ∧ (Scalar.identities inner).Nodup

theorem isSourced_nil (σ : Setting) : σ.IsSourced [] :=
  ⟨by simp [Scalar.identities], by simp [OrderedMap.find?]⟩

theorem isSourced_of_isProper {entries : List (Scalar × Value)}
    (hproper : (Value.map entries).IsProper) (hsections : HasSections entries) (σ : Setting) :
    σ.IsSourced entries := by
  cases hproper with
  | map hkeys hentries =>
      refine ⟨hkeys, fun value hfind => ?_⟩
      obtain ⟨_, hopened⟩ := hsections σ.sectionName σ.sectionName_mem value hfind
      obtain ⟨entry, hentry, rfl⟩ := Scalar.exists_of_find? ((Scalar.find?_text _ _).trans hfind)
      obtain ⟨inner, hmap, hinner, -⟩ := (hentries entry hentry).holdsMap hopened
      exact ⟨inner, hmap, hinner⟩

variable {base later : List (Scalar × Value)} {σ : Setting}

theorem find?_section_mergeEntries (hlater : σ.IsSourced later) :
    OrderedMap.find? (.text σ.sectionName) (Value.mergeEntries base later) =
      match OrderedMap.find? (.text σ.sectionName) later with
      | none => OrderedMap.find? (.text σ.sectionName) base
      | some value =>
          some (Value.overlay (OrderedMap.find? (.text σ.sectionName) base) value) := by
  simp only [← Scalar.find?_text]
  exact Value.find?_mergeEntries hlater.keys base (.text σ.sectionName)

/-- A scalar setting in a merge of two sources is that of the later one, if it has one, and
else that of the other; if either is no scalar, neither is the setting in the merge. -/
theorem in?_mergeEntries (hbase : σ.IsSourced base) (hlater : σ.IsSourced later) :
    (σ.in? (Value.mergeEntries base later)).map Value.scalar? =
      ((σ.in? later).or (σ.in? base)).map Value.scalar? := by
  unfold in?
  rw [find?_section_mergeEntries hlater]
  cases hvalue : OrderedMap.find? (.text σ.sectionName) later with
  | none => simp
  | some value =>
      simp only [Option.bind_some]
      cases hfound : OrderedMap.find? (.text σ.sectionName) base with
      | none => simp [Value.overlay]
      | some found =>
          obtain ⟨under, hunder, -⟩ := hbase.inner found hfound
          obtain ⟨entries, hopened, -⟩ := hunder.opened
          obtain ⟨inner, hmap, hkeys⟩ := hlater.inner value hvalue
          exact Value.get?_opened_overlay hopened hmap hkeys σ.name

/-- A merge of sources is a source again. -/
theorem IsSourced.mergeEntries (hbase : σ.IsSourced base) (hlater : σ.IsSourced later) :
    σ.IsSourced (Value.mergeEntries base later) := by
  refine ⟨Value.nodup_mergeEntries hbase.keys later, fun value hvalue => ?_⟩
  rw [find?_section_mergeEntries hlater] at hvalue
  cases hfound : OrderedMap.find? (.text σ.sectionName) later with
  | none =>
      rw [hfound] at hvalue
      exact hbase.inner value hvalue
  | some found =>
      rw [hfound] at hvalue
      obtain ⟨inner, hmap, hkeys⟩ := hlater.inner found hfound
      cases hunder : OrderedMap.find? (.text σ.sectionName) base with
      | none =>
          rw [hunder] at hvalue
          cases hvalue
          exact ⟨inner, by simpa [Value.overlay] using hmap, hkeys⟩
      | some under =>
          rw [hunder] at hvalue
          cases hvalue
          obtain ⟨held, hheld, hheldKeys⟩ := hbase.inner under hunder
          obtain ⟨entries, hopened, hsame⟩ := hheld.opened
          have hmerged : (Scalar.identities (Value.mergeEntries entries inner)).Nodup :=
            Value.nodup_mergeEntries (by rwa [hsame]) inner
          rcases Value.overlay_of_holdsMap hopened hmap with heq | ⟨label, whole, -, heq⟩
          · exact ⟨_, .inl heq, hmerged⟩
          · exact ⟨_, .inl heq, by rwa [Value.identities_replaceInEntries]⟩

theorem isSourced_merged {sources : List (List (Scalar × Value))}
    (h : ∀ entries ∈ sources, σ.IsSourced entries) : σ.IsSourced (merged sources) := by
  induction sources with
  | nil => exact σ.isSourced_nil
  | cons entries rest ih =>
      obtain ⟨hentries, hrest⟩ := List.forall_mem_cons.mp h
      exact hentries.mergeEntries (ih hrest)

/-- A scalar setting in the merge of many sources is that of the last one that has one. -/
theorem in?_merged {sources : List (List (Scalar × Value))}
    (h : ∀ entries ∈ sources, σ.IsSourced entries) :
    (σ.in? (merged sources)).map Value.scalar? =
      (sources.reverse.findSome? σ.in?).map Value.scalar? := by
  induction sources with
  | nil => rfl
  | cons entries rest ih =>
      obtain ⟨hentries, hrest⟩ := List.forall_mem_cons.mp h
      have hmerged : merged (entries :: rest) = Value.mergeEntries entries (merged rest) := rfl
      rw [hmerged, in?_mergeEntries hentries (isSourced_merged hrest), Option.map_or, ih hrest,
        ← Option.map_or, List.reverse_cons, List.findSome?_append]
      simp

end Setting

end AsmNavigator.Config
