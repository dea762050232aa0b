import AsmNavigator.Proofs.Data.Keys

/-! # Laws of the deep merge

What a merge of two nested mappings holds at a path of keys is decided by the two mappings
alone: where the overriding one has something other than a mapping, that; where it lacks a
key on the way, what the base has. Keys of the base come first, new keys follow. Merging the
same mapping once more changes nothing.
-/

namespace AsmNavigator

namespace Value

/-! ## Nested mappings and the paths in them -/

/-- A mapping, perhaps one that contains itself. -/
def IsMapping (v : Value) : Prop := ∃ entries, v.opened = .map entries

/-- A value whose mappings, nested to any depth, hold every key once. What is no mapping may
be anything. -/
inductive IsNested : Value → Prop
  | leaf {v : Value} (h : ¬ v.IsMapping) : IsNested v
  | map {entries : List (Scalar × Value)} (hkeys : (Scalar.identities entries).Nodup)
      (hentries : ∀ entry ∈ entries, IsNested entry.2) : IsNested (.map entries)

def child? (v : Value) (key : Scalar) : Option Value :=
  match v with
  | .map entries => Scalar.find? key entries
  | _ => none

/-- The value at a path of keys, with mappings all the way. -/
def at? : Value → List Scalar → Option Value
  | v, [] => some v
  | v, key :: rest => (v.child? key).bind fun inner => inner.at? rest

/-- A path leads, with mappings all the way, to a mapping that lacks the next key. -/
def Lacks (v : Value) (path : List Scalar) : Prop :=
  ∃ front key rest entries, path = front ++ key :: rest ∧
    v.at? front = some (.map entries) ∧ Scalar.find? key entries = none

theorem at?_append (v : Value) (front rest : List Scalar) :
    v.at? (front ++ rest) = (v.at? front).bind fun inner => inner.at? rest := by
  induction front generalizing v with
  | nil => rfl
  | cons key front ih =>
      rw [List.cons_append, at?, at?, Option.bind_assoc]
      exact congrArg _ (funext fun inner => ih inner)

theorem at?_eq_none {v : Value} {path : List Scalar} (h : v.at? path = none) :
    ∃ front key rest inner, path = front ++ key :: rest ∧ v.at? front = some inner ∧
      inner.child? key = none := by
  induction path generalizing v with
  | nil => cases h
  | cons key rest ih =>
      cases hchild : v.child? key with
      | none => exact ⟨[], key, rest, v, rfl, rfl, hchild⟩
      | some inner =>
          rw [at?, hchild, Option.bind_some] at h
          obtain ⟨front, next, more, last, rfl, hfront, hlast⟩ := ih h
          exact ⟨key :: front, next, more, last, rfl, by rw [at?, hchild]; exact hfront, hlast⟩

theorem isMapping_map (entries : List (Scalar × Value)) : (map entries).IsMapping :=
  ⟨entries, rfl⟩

namespace IsNested

variable {v inner : Value} {entries : List (Scalar × Value)}

theorem nodup (h : IsNested (.map entries)) : (Scalar.identities entries).Nodup := by
  cases h with
  | leaf hleaf => exact absurd (isMapping_map entries) hleaf
  | map hkeys hentries => exact hkeys

theorem find? (h : IsNested (.map entries)) {key : Scalar}
    (hfind : Scalar.find? key entries = some inner) : IsNested inner := by
  cases h with
  | leaf hleaf => exact absurd (isMapping_map entries) hleaf
  | map hkeys hentries =>
      obtain ⟨entry, hentry, rfl⟩ := Scalar.exists_of_find? hfind
      exact hentries entry hentry

theorem child? (h : IsNested v) {key : Scalar} (hchild : v.child? key = some inner) :
    IsNested inner := by
  cases v with
  | map entries => exact h.find? hchild
  | _ => cases hchild

theorem at? (h : IsNested v) {path : List Scalar} (hat : v.at? path = some inner) :
    IsNested inner := by
  induction path generalizing v with
  | nil =>
      cases hat
      exact h
  | cons key rest ih =>
      obtain ⟨next, hnext, hat⟩ := Option.bind_eq_some_iff.mp hat
      exact ih (h.child? hnext) hat

theorem leaf_or_map (h : IsNested v) : ¬ v.IsMapping ∨ ∃ entries, v = .map entries := by
  cases h with
  | leaf hleaf => exact .inl hleaf
  | map hkeys hentries => exact .inr ⟨_, rfl⟩

end IsNested

/-! ## Merges -/

theorem overlay_of_leaf {v : Value} (h : ¬ v.IsMapping) (base? : Option Value) :
    overlay base? v = v := by
  cases base? with
  | none => simp [overlay]
  | some base =>
      cases v with
      | map entries => exact absurd (isMapping_map entries) h
      | knot label body =>
          cases body with
          | map entries => exact absurd ⟨_, rfl⟩ h
          | _ => simp [overlay]
      | _ => simp [overlay]

/-- Merging mappings without common keys puts one behind the other. -/
theorem mergeEntries_of_fresh {base later : List (Scalar × Value)}
    (h : (Scalar.identities (base ++ later)).Nodup) : mergeEntries base later = base ++ later := by
  induction later generalizing base with
  | nil => rw [mergeEntries, List.append_nil]
  | cons entry rest ih =>
      obtain ⟨key, value⟩ := entry
      have hfresh : key.identity ∉ Scalar.identities base := by
        simp only [Scalar.identities, List.map_append, List.map_cons] at h ⊢
        exact fun hmem => (List.nodup_append.mp h).2.2 _ hmem _ (by simp) rfl
      have hplain : overlay none value = value := by simp [overlay]
      rw [mergeEntries, Scalar.find?_eq_none hfresh, hplain, Scalar.put_of_fresh hfresh,
        ih (by simpa using h)]
      simp

theorem mergeEntries_nil_left {later : List (Scalar × Value)}
    (h : (Scalar.identities later).Nodup) : mergeEntries [] later = later :=
  mergeEntries_of_fresh h

def entriesOf (base? : Option Value) : List (Scalar × Value) :=
  match base?.map opened with
  | some (.map entries) => entries
  | _ => []

/-- Over anything but a mapping, a mapping is merged as over an empty one. -/
theorem overlay_map {later : List (Scalar × Value)} (h : (Scalar.identities later).Nodup)
    (base? : Option Value) :
    overlay base? (.map later) = .map (mergeEntries (entriesOf base?) later) := by
  cases base? with
  | none => simp [overlay, entriesOf, mergeEntries_nil_left h]
  | some base =>
      cases hopened : base.opened with
      | map entries => simp only [overlay, entriesOf, hopened, Option.map_some]
      | _ => simp only [overlay, entriesOf, hopened, Option.map_some, mergeEntries_nil_left h]

/-- Keys of the base keep their order, and new keys follow in theirs. -/
theorem keys_mergeEntries {later : List (Scalar × Value)} (h : (Scalar.identities later).Nodup)
    (base : List (Scalar × Value)) :
    Scalar.keys (mergeEntries base later) =
      Scalar.keys base ++ (Scalar.keys later).filter fun key => (Scalar.find? key base).isNone := by
  induction later generalizing base with
  | nil => simp [mergeEntries, Scalar.keys]
  | cons entry rest ih =>
      obtain ⟨key, value⟩ := entry
      obtain ⟨hfresh, hrest⟩ := List.nodup_cons.mp h
      have hsame : ∀ w, (Scalar.keys rest).filter
            (fun other => (Scalar.find? other (Scalar.put key w base)).isNone) =
          (Scalar.keys rest).filter fun other => (Scalar.find? other base).isNone := by
        intro w
        refine List.filter_congr fun other hother => ?_
        have hne : key.identity ≠ other.identity := by
          intro heq
          obtain ⟨found, hfound, rfl⟩ := List.mem_map.mp hother
          exact hfresh (List.mem_map.mpr ⟨found, hfound, heq.symm⟩)
        rw [Scalar.find?_put, if_neg hne]
      rw [mergeEntries, ih hrest, hsame, Scalar.keys_put]
      simp only [Scalar.keys, List.map_cons, List.filter_cons]
      split <;> simp

theorem entriesOf_of_leaf {v : Value} (h : ¬ v.IsMapping) : entriesOf (some v) = [] := by
  cases hopened : v.opened with
  | map entries => exact absurd ⟨entries, hopened⟩ h
  | _ => simp only [entriesOf, hopened, Option.map_some]

theorem child?_of_leaf {v : Value} (h : ¬ v.IsMapping) (key : Scalar) : v.child? key = none := by
  cases v with
  | map entries => exact absurd (isMapping_map entries) h
  | _ => rfl

/-! ## What a merge holds at a path -/

variable {a b : List (Scalar × Value)} {path : List Scalar}

/-- A child of the base, read off its entries. -/
theorem bind_child? {base? : Option Value} (h : ∀ base ∈ base?, base.IsNested) (key : Scalar) :
    (base?.bind fun base => base.child? key) = Scalar.find? key (entriesOf base?) := by
  cases base? with
  | none => rfl
  | some base =>
      rcases (h base rfl).leaf_or_map with hleaf | ⟨entries, rfl⟩
      · rw [entriesOf_of_leaf hleaf]
        exact child?_of_leaf hleaf key
      · rfl

/-- Where the overriding side has a value, that value is merged over what the base has. -/
theorem at?_overlay {base? : Option Value} {later v : Value}
    (hbase : ∀ base ∈ base?, base.IsNested) (hlater : later.IsNested)
    (h : later.at? path = some v) :
    (overlay base? later).at? path =
      some (overlay (base?.bind fun base => base.at? path) v) := by
  induction path generalizing base? later with
  | nil =>
      cases h
      cases base? <;> rfl
  | cons key rest ih =>
      obtain ⟨inner, hinner, hrest⟩ := Option.bind_eq_some_iff.mp h
      cases later with
      | map entries =>
          have hfind := find?_mergeEntries hlater.nodup (entriesOf base?) key
          have hchild : Scalar.find? key entries = some inner := hinner
          rw [hchild] at hfind
          have hunder : ∀ under ∈ base?.bind (fun base => base.child? key), under.IsNested := by
            intro under hmem
            obtain ⟨base, rfl, hunder⟩ := Option.bind_eq_some_iff.mp hmem
            exact (hbase base rfl).child? hunder
          have hmerged := ih hunder (hlater.find? hchild) hrest
          rw [bind_child? hbase] at hmerged
          rw [overlay_map hlater.nodup, at?]
          show (Scalar.find? key _).bind _ = _
          rw [hfind, Option.bind_some, hmerged, ← bind_child? hbase, Option.bind_assoc]
          rfl
      | _ => cases hinner

/-- Where the overriding side lacks a key, a merge holds what the base has. -/
theorem at?_overlay_of_lacks {base? : Option Value} {later : Value}
    (hbase : ∀ base ∈ base?, base.IsNested) (hlater : later.IsNested) (h : later.Lacks path) :
    (overlay base? later).at? path = base?.bind fun base => base.at? path := by
  obtain ⟨front, key, rest, entries, rfl, hfront, hlacks⟩ := h
  have hmerged := at?_overlay hbase hlater hfront
  have hkeys := (hlater.at? hfront).nodup
  have hunder : ∀ under ∈ base?.bind (fun base => base.at? front), under.IsNested := by
    intro under hmem
    obtain ⟨base, rfl, hunder⟩ := Option.bind_eq_some_iff.mp hmem
    exact (hbase base rfl).at? hunder
  have hfind := find?_mergeEntries hkeys
    (entriesOf (base?.bind fun base => base.at? front)) key
  rw [hlacks, ← bind_child? hunder] at hfind
  have hchild : (overlay (base?.bind fun base => base.at? front) (.map entries)).child? key =
      (base?.bind fun base => base.at? front).bind fun base => base.child? key := by
    rw [overlay_map hkeys]
    exact hfind
  simp only [at?_append, hmerged, Option.bind_some, at?, hchild, Option.bind_assoc]

/-- What a merge of two mappings holds, by what they hold. -/
structure IsMergeOf (merged base later : Value) : Prop where
  /-- What the overriding mapping has, if it is no mapping, stands in the merge. -/
  of_later : ∀ path v, ¬ v.IsMapping → later.at? path = some v → merged.at? path = some v
  /-- So does what the base has where the overriding mapping lacks a key. -/
  of_base : ∀ path v, ¬ v.IsMapping → base.at? path = some v → later.Lacks path →
    merged.at? path = some v
  /-- There is nothing else in it. -/
  cases : ∀ path v, ¬ v.IsMapping → merged.at? path = some v →
    later.at? path = some v ∨ base.at? path = some v ∧ later.Lacks path
  /-- Two mappings at one path become one, with the keys of the base first. -/
  keys : ∀ path lower upper, base.at? path = some (.map lower) →
    later.at? path = some (.map upper) →
    ∃ entries, merged.at? path = some (.map entries) ∧ Scalar.keys entries =
      Scalar.keys lower ++ (Scalar.keys upper).filter fun key => (Scalar.find? key lower).isNone

theorem isMergeOf_overlay {base later : Value} (hbase : base.IsNested) (hlater : later.IsNested) :
    IsMergeOf (overlay (some base) later) base later := by
  have hsome : ∀ lower ∈ some base, lower.IsNested := by
    rintro lower ⟨rfl⟩
    exact hbase
  refine ⟨fun path v hleaf hat => ?_, fun path v hleaf hat hlacks => ?_,
    fun path v hleaf hat => ?_, fun path lower upper hlower hupper => ?_⟩
  · rw [at?_overlay hsome hlater hat, overlay_of_leaf hleaf]
  · rw [at?_overlay_of_lacks hsome hlater hlacks, Option.bind_some, hat]
  · cases hlaterAt : later.at? path with
    | some w =>
        left
        rw [at?_overlay hsome hlater hlaterAt] at hat
        rcases (hlater.at? hlaterAt).leaf_or_map with hw | ⟨entries, rfl⟩
        · rwa [overlay_of_leaf hw] at hat
        · rw [overlay_map (hlater.at? hlaterAt).nodup] at hat
          cases hat
          exact absurd (isMapping_map _) hleaf
    | none =>
        right
        obtain ⟨front, key, rest, inner, rfl, hfront, hchild⟩ := at?_eq_none hlaterAt
        rcases (hlater.at? hfront).leaf_or_map with hinner | ⟨entries, rfl⟩
        · rw [at?_append, at?_overlay hsome hlater hfront, overlay_of_leaf hinner, Option.bind_some,
            at?, child?_of_leaf hinner] at hat
          cases hat
        · have hlacks : later.Lacks (front ++ key :: rest) :=
            ⟨front, key, rest, entries, rfl, hfront, hchild⟩
          rw [at?_overlay_of_lacks hsome hlater hlacks] at hat
          exact ⟨hat, hlacks⟩
  · refine ⟨_, ?_, keys_mergeEntries (hlater.at? hupper).nodup lower⟩
    rw [at?_overlay hsome hlater hupper, Option.bind_some, hlower,
      overlay_map (hlater.at? hupper).nodup]
    rfl

/-! ## Merging again -/

/-- Merging values that are in place already changes nothing. -/
theorem mergeEntries_eq_self {merged later : List (Scalar × Value)}
    (h : ∀ entry ∈ later, ∃ v, Scalar.find? entry.1 merged = some v ∧
      overlay (some v) entry.2 = v) : mergeEntries merged later = merged := by
  induction later with
  | nil => rw [mergeEntries]
  | cons entry rest ih =>
      obtain ⟨key, value⟩ := entry
      obtain ⟨v, hfind, hsame⟩ := h (key, value) (by simp)
      rw [mergeEntries, hfind, hsame, Scalar.put_of_find? hfind,
        ih fun entry hentry => h entry (List.mem_cons_of_mem _ hentry)]

theorem mergeEntries_mergeEntries_of {later : List (Scalar × Value)}
    (hkeys : (Scalar.identities later).Nodup)
    (h : ∀ entry ∈ later, ∀ base?, overlay (some (overlay base? entry.2)) entry.2 =
      overlay base? entry.2) (base : List (Scalar × Value)) :
    mergeEntries (mergeEntries base later) later = mergeEntries base later := by
  refine mergeEntries_eq_self fun entry hentry => ?_
  refine ⟨overlay (Scalar.find? entry.1 base) entry.2, ?_, h entry hentry _⟩
  rw [find?_mergeEntries hkeys, Scalar.find?_of_mem hkeys hentry]

theorem overlay_overlay {v : Value} (h : v.IsNested) (base? : Option Value) :
    overlay (some (overlay base? v)) v = overlay base? v := by
  induction h generalizing base? with
  | leaf hleaf => rw [overlay_of_leaf hleaf, overlay_of_leaf hleaf]
  | map hkeys hentries ih =>
      rw [overlay_map hkeys base?, overlay_map hkeys]
      exact congrArg _ (mergeEntries_mergeEntries_of hkeys ih _)

/-- Merging the same mapping once more changes nothing, whatever it was merged over. -/
theorem mergeEntries_again (h : IsNested (.map b)) (a : List (Scalar × Value)) :
    mergeEntries (mergeEntries a b) b = mergeEntries a b := by
  have hagain := overlay_overlay h (some (.map a))
  rw [overlay_map h.nodup (some (.map a)), overlay_map h.nodup] at hagain
  exact Value.map.inj hagain

/-- The merge of two nested mappings is settled path by path; an empty mapping is neutral on
both sides, and merging a mapping with itself, or the same mapping once more, changes
nothing. -/
theorem isMergeOf_mergeEntries (ha : IsNested (.map a)) (hb : IsNested (.map b)) :
    IsMergeOf (.map (mergeEntries a b)) (.map a) (.map b) ∧
      mergeEntries a [] = a ∧ mergeEntries [] b = b ∧ mergeEntries a a = a ∧
      mergeEntries (mergeEntries a b) b = mergeEntries a b := by
  have hmerged : overlay (some (.map a)) (.map b) = .map (mergeEntries a b) :=
    overlay_map hb.nodup (some (.map a))
  have hself := mergeEntries_again ha []
  rw [mergeEntries_nil_left ha.nodup] at hself
  exact ⟨hmerged ▸ isMergeOf_overlay ha hb, by rw [mergeEntries],
    mergeEntries_nil_left hb.nodup, hself, mergeEntries_again hb a⟩

def siteEntries : List (Scalar × Value) :=
  [(.text "layout", .map [(.text "crates", .int 1), (.text "lib", .map [(.text "a", .int 2)])]),
    (.text "level", .text "INFO")]

/-- Settings that add to an inner section, put an empty one in the place of a number and a
list that holds itself in the place of a text. -/
def ownEntries : List (Scalar × Value) :=
  [(.text "layout", .map [(.text "lib", .map [(.text "b", .int 3)]), (.text "crates", .map [])]),
    (.text "level", .knot 0 (.list [.link 0]))]

theorem mergeEntries_ownEntries :
    IsNested (.map siteEntries) ∧ IsNested (.map ownEntries) ∧
      mergeEntries siteEntries ownEntries =
        [(.text "layout", .map [(.text "crates", .map []),
            (.text "lib", .map [(.text "a", .int 2), (.text "b", .int 3)])]),
          (.text "level", .knot 0 (.list [.link 0]))] ∧
      (Value.map (mergeEntries siteEntries ownEntries)).at?
        [.text "layout", .text "lib", .text "a"] = some (.int 2) ∧
      mergeEntries (mergeEntries siteEntries ownEntries) ownEntries =
        mergeEntries siteEntries ownEntries := by
  have hnumber : ∀ n : Int, ¬ (Value.int n).IsMapping := by
    rintro n ⟨entries, hopened⟩
    cases hopened
  have htext : ∀ s : String, ¬ (Value.text s).IsMapping := by
    rintro s ⟨entries, hopened⟩
    cases hopened
  have hknot : ¬ (Value.knot 0 (.list [.link 0])).IsMapping := by
    rintro ⟨entries, hopened⟩
    cases hopened
  have hsite : IsNested (.map siteEntries) := by
    refine .map (by decide) ?_
    simp only [siteEntries, List.forall_mem_cons, List.not_mem_nil, false_implies, implies_true,
      and_true]
    refine ⟨.map (by decide) ?_, .leaf (htext _)⟩
    simp only [List.forall_mem_cons, List.not_mem_nil, false_implies, implies_true, and_true]
    refine ⟨.leaf (hnumber _), .map (by decide) ?_⟩
    simpa using IsNested.leaf (hnumber 2)
  have hown : IsNested (.map ownEntries) := by
    refine .map (by decide) ?_
    simp only [ownEntries, List.forall_mem_cons, List.not_mem_nil, false_implies, implies_true,
      and_true]
    refine ⟨.map (by decide) ?_, .leaf hknot⟩
    simp only [List.forall_mem_cons, List.not_mem_nil, false_implies, implies_true, and_true]
    refine ⟨.map (by decide) ?_, .map (by decide) (by simp)⟩
    simpa using IsNested.leaf (hnumber 3)
  obtain ⟨hmerge, -, -, -, hagain⟩ := isMergeOf_mergeEntries hsite hown
  refine ⟨hsite, hown, rfl, hmerge.of_base _ _ (hnumber 2) rfl ?_, hagain⟩
  exact ⟨[.text "layout", .text "lib"], .text "a", [], [(.text "b", .int 3)], rfl, rfl, rfl⟩

end Value

end AsmNavigator
