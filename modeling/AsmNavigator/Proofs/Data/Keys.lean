import AsmNavigator.Data.Merge
import AsmNavigator.Proofs.Data.OrderedMap

/-! # Mappings in which every key stands once

A proper value holds no key twice, whatever the key's spelling, and its knots are lists or
mappings. Looking up a key in a merge of proper mappings takes the later mapping first.
-/

namespace AsmNavigator

namespace Scalar

variable {α : Type}

def identities (entries : List (Scalar × α)) : List Identity :=
  entries.map fun entry => entry.1.identity

theorem identities_eq (entries : List (Scalar × α)) :
    identities entries = (entries.map (·.1)).map identity := by
  simp [identities]

def byIdentity (entries : List (Scalar × α)) : List (Identity × α) :=
  entries.map fun entry => (entry.1.identity, entry.2)

theorem find?_eq (key : Scalar) (entries : List (Scalar × α)) :
    find? key entries = OrderedMap.find? key.identity (byIdentity entries) := by
  induction entries with
  | nil => rfl
  | cons entry rest ih =>
      unfold find?
      rw [ih]
      rfl

theorem byIdentity_put (key : Scalar) (value : α) (entries : List (Scalar × α)) :
    byIdentity (put key value entries) =
      OrderedMap.put key.identity value (byIdentity entries) := by
  induction entries with
  | nil => rfl
  | cons entry rest ih =>
      obtain ⟨k, a⟩ := entry
      by_cases hk : k.identity = key.identity
      · simp [put, byIdentity, OrderedMap.put, hk]
      · simp only [byIdentity, List.map_cons] at ih ⊢
        simp [put, OrderedMap.put, hk, ih]

theorem keys_byIdentity (entries : List (Scalar × α)) :
    (byIdentity entries).map (·.1) = identities entries := by
  simp [byIdentity, identities]

theorem find?_congr {key other : Scalar} (h : key.identity = other.identity)
    (entries : List (Scalar × α)) : find? key entries = find? other entries := by
  rw [find?_eq, find?_eq, h]

theorem find?_put (key other : Scalar) (value : α) (entries : List (Scalar × α)) :
    find? key (put other value entries) =
      if other.identity = key.identity then some value else find? key entries := by
  rw [find?_eq, byIdentity_put, OrderedMap.find?_put, ← find?_eq]

theorem find?_eq_none {key : Scalar} {entries : List (Scalar × α)}
    (h : key.identity ∉ identities entries) : find? key entries = none := by
  rw [find?_eq, OrderedMap.find?_eq_none_iff]
  rintro entry hentry hkey
  rw [← keys_byIdentity, ← hkey] at h
  exact h (List.mem_map_of_mem hentry)

theorem exists_of_find? {key : Scalar} {value : α} {entries : List (Scalar × α)}
    (h : find? key entries = some value) : ∃ entry ∈ entries, entry.2 = value := by
  rw [find?_eq] at h
  obtain ⟨entry, hentry, heq⟩ := List.mem_map.mp (OrderedMap.mem_of_find? h)
  exact ⟨entry, hentry, congrArg Prod.snd heq⟩

theorem nodup_put {entries : List (Scalar × α)} (h : (identities entries).Nodup) (key : Scalar)
    (value : α) : (identities (put key value entries)).Nodup := by
  rw [← keys_byIdentity] at h ⊢
  rw [byIdentity_put]
  exact OrderedMap.nodup_keys_put h _ _

theorem put_of_fresh {key : Scalar} {entries : List (Scalar × α)}
    (h : key.identity ∉ identities entries) (value : α) :
    put key value entries = entries ++ [(key, value)] := by
  induction entries with
  | nil => rfl
  | cons entry rest ih =>
      obtain ⟨hne, hrest⟩ := not_or.mp (List.mem_cons.not.mp h)
      rw [put, if_neg (Ne.symm hne), ih hrest]
      rfl

/-- Setting a key to the value that it has changes nothing. -/
theorem put_of_find? {key : Scalar} {value : α} {entries : List (Scalar × α)}
    (h : find? key entries = some value) : put key value entries = entries := by
  induction entries with
  | nil => cases h
  | cons entry rest ih =>
      obtain ⟨k, a⟩ := entry
      unfold find? at h
      unfold put
      split at h
      · next hk =>
          cases h
          rw [if_pos hk]
      · next hk => rw [if_neg hk, ih h]

theorem find?_of_mem {entries : List (Scalar × α)} (hkeys : (identities entries).Nodup)
    {entry : Scalar × α} (hentry : entry ∈ entries) : find? entry.1 entries = some entry.2 := by
  have hmem : (entry.1.identity, entry.2) ∈ byIdentity entries :=
    List.mem_map.mpr ⟨entry, hentry, rfl⟩
  have hnodup : ((byIdentity entries).map (·.1)).Nodup := by rwa [keys_byIdentity]
  rw [find?_eq]
  exact OrderedMap.find?_of_mem hnodup hmem

def keys (entries : List (Scalar × α)) : List Scalar := entries.map (·.1)

theorem keys_put (key : Scalar) (value : α) (entries : List (Scalar × α)) :
    keys (put key value entries) =
      if (find? key entries).isNone then keys entries ++ [key] else keys entries := by
  induction entries with
  | nil => rfl
  | cons entry rest ih =>
      obtain ⟨k, a⟩ := entry
      by_cases hk : k.identity = key.identity
      · simp [put, find?, hk, keys]
      · simp only [keys, put, find?, if_neg hk, List.map_cons] at ih ⊢
        rw [ih]
        split <;> rfl

end Scalar

namespace Value

def isKnottable : Value → Bool
  | .list _ | .map _ => true
  | _ => false

/-- Mappings hold every key once, and knots hold lists or mappings. -/
inductive IsProper : Value → Prop
  | scalar (s : Scalar) : IsProper (.scalar s)
  | list {items : List Value} (hitems : ∀ item ∈ items, IsProper item) : IsProper (.list items)
  | map {entries : List (Scalar × Value)} (hkeys : (Scalar.identities entries).Nodup)
      (hentries : ∀ entry ∈ entries, IsProper entry.2) : IsProper (.map entries)
  | set (members : List Scalar) : IsProper (.set members)
  | pair {first second : Value} (hfirst : IsProper first) (hsecond : IsProper second) :
      IsProper (.pair first second)
  | knot {label : Nat} {body : Value} (hbody : body.isKnottable = true) (hproper : IsProper body) :
      IsProper (.knot label body)
  | link (label : Nat) : IsProper (.link label)

theorem isProper_map_nil : IsProper (.map []) :=
  .map (by simp [Scalar.identities]) (by simp)

/-! ## Links that are replaced -/

theorem replaceInItems_eq (label : Nat) (whole : Value) (items : List Value) :
    replaceInItems label whole items = items.map (replaceLink label whole) := by
  induction items with
  | nil => rfl
  | cons item rest ih => rw [replaceInItems, ih, List.map_cons]

theorem replaceInEntries_eq (label : Nat) (whole : Value) (entries : List (Scalar × Value)) :
    replaceInEntries label whole entries =
      entries.map fun entry => (entry.1, replaceLink label whole entry.2) := by
  induction entries with
  | nil => rfl
  | cons entry rest ih =>
      obtain ⟨key, value⟩ := entry
      rw [replaceInEntries, ih, List.map_cons]

theorem identities_replaceInEntries (label : Nat) (whole : Value)
    (entries : List (Scalar × Value)) :
    Scalar.identities (replaceInEntries label whole entries) = Scalar.identities entries := by
  rw [replaceInEntries_eq]
  simp [Scalar.identities]

theorem find?_replaceInEntries (label : Nat) (whole : Value) (key : Scalar)
    (entries : List (Scalar × Value)) :
    Scalar.find? key (replaceInEntries label whole entries) =
      (Scalar.find? key entries).map (replaceLink label whole) := by
  induction entries with
  | nil => rfl
  | cons entry rest ih =>
      obtain ⟨k, value⟩ := entry
      rw [replaceInEntries]
      unfold Scalar.find?
      split
      · rfl
      · exact ih

theorem isKnottable_replaceLink {body : Value} (h : body.isKnottable = true) (label : Nat)
    (whole : Value) : (replaceLink label whole body).isKnottable = true := by
  cases body <;> simp_all [replaceLink, isKnottable]

namespace IsProper

variable {v whole : Value} {label : Nat}

theorem replaceLink (h : IsProper v) (hwhole : IsProper whole) :
    IsProper (replaceLink label whole v) := by
  induction h with
  | scalar s => exact .scalar s
  | list hitems ih =>
      rw [Value.replaceLink, replaceInItems_eq]
      refine .list fun item hitem => ?_
      obtain ⟨before, hbefore, rfl⟩ := List.mem_map.mp hitem
      exact ih before hbefore
  | map hkeys hentries ih =>
      rw [Value.replaceLink]
      refine .map (by rwa [identities_replaceInEntries]) fun entry hentry => ?_
      rw [replaceInEntries_eq] at hentry
      obtain ⟨before, hbefore, rfl⟩ := List.mem_map.mp hentry
      exact ih before hbefore
  | set members => exact .set members
  | pair hfirst hsecond ihfirst ihsecond => exact .pair ihfirst ihsecond
  | knot hbody hproper ih =>
      rw [Value.replaceLink]
      split
      · exact .knot hbody hproper
      · exact .knot (isKnottable_replaceLink hbody _ _) ih
  | link other =>
      rw [Value.replaceLink]
      split
      · exact hwhole
      · exact .link other

theorem opened (h : IsProper v) : IsProper v.opened := by
  cases h with
  | knot hbody hproper => exact hproper.replaceLink (.knot hbody hproper)
  | scalar s => exact .scalar s
  | list hitems => exact .list hitems
  | map hkeys hentries => exact .map hkeys hentries
  | set members => exact .set members
  | pair hfirst hsecond => exact .pair hfirst hsecond
  | link label => exact .link label

end IsProper

/-! ## Scalars in a merge -/

def scalar? : Value → Option Scalar
  | .scalar s => some s
  | _ => none

theorem scalar?_replaceLink {whole : Value} (hwhole : whole.scalar? = none) (label : Nat)
    (v : Value) : (replaceLink label whole v).scalar? = v.scalar? := by
  cases v with
  | knot other body =>
      rw [replaceLink]
      split <;> rfl
  | link other =>
      rw [replaceLink]
      split
      · exact hwhole
      · rfl
  | _ => rfl

/-- A merge neither makes a scalar nor changes one. -/
theorem scalar?_overlay (base? : Option Value) (v : Value) :
    (overlay base? v).scalar? = v.scalar? := by
  cases base? with
  | none => simp [overlay]
  | some base =>
      cases v with
      | map later =>
          simp only [overlay]
          split <;> rfl
      | knot label body =>
          cases body with
          | map later =>
              simp only [overlay]
              split <;> rfl
          | _ => simp [overlay]
      | _ => simp [overlay]

theorem nodup_mergeEntries {base : List (Scalar × Value)}
    (h : (Scalar.identities base).Nodup) (later : List (Scalar × Value)) :
    (Scalar.identities (mergeEntries base later)).Nodup := by
  induction later generalizing base with
  | nil => rwa [mergeEntries]
  | cons entry rest ih =>
      rw [mergeEntries]
      exact ih (Scalar.nodup_put h _ _)

theorem find?_mergeEntries {later : List (Scalar × Value)}
    (hkeys : (Scalar.identities later).Nodup) (base : List (Scalar × Value)) (key : Scalar) :
    Scalar.find? key (mergeEntries base later) =
      match Scalar.find? key later with
      | none => Scalar.find? key base
      | some v => some (overlay (Scalar.find? key base) v) := by
  induction later generalizing base with
  | nil => rw [mergeEntries, Scalar.find?]
  | cons entry rest ih =>
      obtain ⟨k, v⟩ := entry
      obtain ⟨hfresh, hrest⟩ := List.nodup_cons.mp hkeys
      rw [mergeEntries, ih hrest, Scalar.find?_put]
      by_cases hk : k.identity = key.identity
      · have habsent : Scalar.find? key rest = none := Scalar.find?_eq_none (hk ▸ hfresh)
        rw [habsent, if_pos hk, Scalar.find?_congr hk, Scalar.find?, if_pos hk]
      · rw [if_neg hk, Scalar.find?, if_neg hk]

/-! ## Mappings in a merge -/

def HoldsMap (v : Value) (entries : List (Scalar × Value)) : Prop :=
  v = .map entries ∨ ∃ label, v = .knot label (.map entries)

/-- What a value holds, opened or not, has the same keys. -/
theorem HoldsMap.opened {v : Value} {entries : List (Scalar × Value)} (h : v.HoldsMap entries) :
    ∃ inner, v.opened = .map inner ∧ Scalar.identities inner = Scalar.identities entries := by
  rcases h with rfl | ⟨label, rfl⟩
  · exact ⟨entries, rfl, rfl⟩
  · exact ⟨_, rfl, identities_replaceInEntries ..⟩

theorem IsProper.holdsMap {v : Value} (h : IsProper v) {entries : List (Scalar × Value)}
    (hopened : v.opened = .map entries) :
    ∃ inner, v.HoldsMap inner ∧ (Scalar.identities inner).Nodup ∧
      ∀ entry ∈ inner, IsProper entry.2 := by
  cases h with
  | map hkeys hentries => exact ⟨_, .inl rfl, hkeys, hentries⟩
  | knot hbody hproper =>
      cases hproper with
      | map hkeys hentries => exact ⟨_, .inr ⟨_, rfl⟩, hkeys, hentries⟩
      | list hitems => cases hopened
      | _ => cases hbody
  | _ => cases hopened

/-- The scalar, if it is one, at a text key of a mapping. -/
theorem get?_opened_of_holdsMap {v : Value} {entries : List (Scalar × Value)}
    (h : v.HoldsMap entries) (name : String) :
    (v.opened.get? name).map scalar? = (Scalar.find? (.text name) entries).map scalar? := by
  rcases h with rfl | ⟨label, rfl⟩
  · rw [Scalar.find?_text]
    rfl
  · simp only [opened, replaceLink, get?]
    rw [← Scalar.find?_text, find?_replaceInEntries, Option.map_map]
    congr 1
    funext inner
    exact scalar?_replaceLink rfl label inner

theorem overlay_of_holdsMap {base v : Value} {entries inner : List (Scalar × Value)}
    (hbase : base.opened = .map entries) (hv : v.HoldsMap inner) :
    overlay (some base) v = .map (mergeEntries entries inner) ∨
      ∃ label whole, whole.scalar? = none ∧
        overlay (some base) v =
          .map (replaceInEntries label whole (mergeEntries entries inner)) := by
  rcases hv with rfl | ⟨label, rfl⟩
  · left
    simp only [overlay, hbase]
  · refine .inr ⟨label, .knot label (.map inner), rfl, ?_⟩
    simp only [overlay, hbase, replaceLink]

/-- In a merge of two mappings, the scalars of the later one come first. -/
theorem get?_opened_overlay {base v : Value} {entries inner : List (Scalar × Value)}
    (hbase : base.opened = .map entries) (hv : v.HoldsMap inner)
    (hkeys : (Scalar.identities inner).Nodup) (name : String) :
    ((overlay (some base) v).opened.get? name).map scalar? =
      ((v.opened.get? name).or (base.opened.get? name)).map scalar? := by
  have hmerged : ((overlay (some base) v).opened.get? name).map scalar? =
      (Scalar.find? (.text name) (mergeEntries entries inner)).map scalar? := by
    rcases overlay_of_holdsMap hbase hv with heq | ⟨label, whole, hwhole, heq⟩
    · exact get?_opened_of_holdsMap (.inl heq) name
    · rw [get?_opened_of_holdsMap (.inl heq), find?_replaceInEntries, Option.map_map]
      congr 1
      funext found
      exact scalar?_replaceLink hwhole label found
  have hbaseLookup : base.opened.get? name = Scalar.find? (.text name) entries := by
    rw [hbase, Scalar.find?_text]
    rfl
  rw [hmerged, Option.map_or, get?_opened_of_holdsMap hv, hbaseLookup, find?_mergeEntries hkeys]
  cases hfind : Scalar.find? (.text name) inner with
  | none => rfl
  | some found => simp [scalar?_overlay]

end Value

end AsmNavigator
