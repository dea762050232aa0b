import AsmNavigator.OrderedMap
import Mathlib.Data.List.Basic
import Mathlib.Data.List.Induction
import Mathlib.Data.List.Nodup

/-! # Keys and entries of ordered maps

However a map is built, no key stands in it twice; its entries are those that were put in,
and at every key it holds the last value that was set there.
-/

namespace AsmNavigator.OrderedMap

variable {κ α : Type} [DecidableEq κ]

/-! ## Lists of entries -/

theorem find?_eq_none_iff {entries : List (κ × α)} {key : κ} :
    find? key entries = none ↔ ∀ entry ∈ entries, entry.1 ≠ key := by
  induction entries with
  | nil => simp [find?]
  | cons entry rest ih =>
      unfold find?
      split
      · next heq => simp [heq]
      · next hne => simp [hne, ih]

theorem mem_of_find? {entries : List (κ × α)} {key : κ} {value : α}
    (h : find? key entries = some value) : (key, value) ∈ entries := by
  induction entries with
  | nil => simp [find?] at h
  | cons entry rest ih =>
      obtain ⟨k, a⟩ := entry
      unfold find? at h
      split at h
      · next hk =>
          cases hk
          cases h
          exact List.mem_cons_self
      · exact List.mem_cons_of_mem _ (ih h)

theorem find?_filter_key (keep : κ → Bool) (key : κ) (entries : List (κ × α)) :
    find? key (entries.filter fun entry => keep entry.1) =
      if keep key then find? key entries else none := by
  induction entries with
  | nil => simp [find?]
  | cons entry rest ih =>
      obtain ⟨k, a⟩ := entry
      by_cases hk : k = key
      · subst hk
        by_cases hkeep : keep k = true
        · simp [find?, hkeep]
        · simp [hkeep, ih]
      · by_cases hkeep : keep k = true
        · simp [find?, hk, hkeep, ih]
        · simp [find?, hk, hkeep, ih]

theorem keys_put (key : κ) (value : α) (entries : List (κ × α)) :
    (put key value entries).map (·.1) =
      if key ∈ entries.map (·.1) then entries.map (·.1) else entries.map (·.1) ++ [key] := by
  induction entries with
  | nil => simp [put]
  | cons entry rest ih =>
      obtain ⟨k, a⟩ := entry
      by_cases hk : k = key
      · simp [put, hk]
      · simp only [put, if_neg hk, List.map_cons, ih, List.mem_cons, Ne.symm hk, false_or]
        split <;> simp

theorem nodup_keys_put {entries : List (κ × α)} (h : (entries.map (·.1)).Nodup) (key : κ)
    (value : α) : ((put key value entries).map (·.1)).Nodup := by
  rw [keys_put]
  split
  · exact h
  · next hkey =>
      refine List.nodup_append.mpr ⟨h, by simp, ?_⟩
      intro k hk k' hk' heq
      rw [List.mem_singleton.mp hk'] at heq
      exact hkey (heq ▸ hk)

theorem mem_of_mem_put {entries : List (κ × α)} {key : κ} {value : α} {entry : κ × α}
    (h : entry ∈ put key value entries) : entry ∈ entries ∨ entry = (key, value) := by
  induction entries with
  | nil => exact .inr (List.mem_singleton.mp h)
  | cons first rest ih =>
      obtain ⟨k, a⟩ := first
      simp only [put] at h
      split at h
      · next heq =>
          rcases List.mem_cons.mp h with rfl | h
          · exact .inr (by rw [heq])
          · exact .inl (List.mem_cons_of_mem _ h)
      · rcases List.mem_cons.mp h with rfl | h
        · exact .inl List.mem_cons_self
        · exact (ih h).imp_left (List.mem_cons_of_mem _)

theorem length_put_le (key : κ) (value : α) (entries : List (κ × α)) :
    (put key value entries).length ≤ entries.length + 1 := by
  induction entries with
  | nil => simp [put]
  | cons entry rest ih =>
      unfold put
      split
      · simp
      · simp only [List.length_cons]
        omega

theorem put_of_forall_ne {entries : List (κ × α)} {key : κ}
    (h : ∀ entry ∈ entries, entry.1 ≠ key) (value : α) :
    put key value entries = entries ++ [(key, value)] := by
  induction entries with
  | nil => rfl
  | cons entry rest ih =>
      rw [put, if_neg (h entry (by simp)), ih fun e he => h e (List.mem_cons_of_mem _ he)]
      rfl

/-- Setting keys that are all new appends them. -/
theorem foldl_put_of_nodup {done rest : List (κ × α)} (h : ((done ++ rest).map (·.1)).Nodup) :
    rest.foldl (fun done entry => put entry.1 entry.2 done) done = done ++ rest := by
  induction rest generalizing done with
  | nil => simp
  | cons entry rest ih =>
      have hnew : ∀ e ∈ done, e.1 ≠ entry.1 := by
        intro e he heq
        rw [List.map_append, List.nodup_append] at h
        exact h.2.2 e.1 (List.mem_map_of_mem he) entry.1 (by simp) heq
      rw [List.foldl_cons, put_of_forall_ne hnew, ih (by simpa using h)]
      simp

/-! ## Maps -/

theorem mem_keys_iff {m : OrderedMap κ α} {key : κ} :
    key ∈ m.keys ↔ (m.get? key).isSome = true := by
  rw [← Option.ne_none_iff_isSome, get?, Ne, find?_eq_none_iff]
  simp [keys]

theorem mem_of_get? {m : OrderedMap κ α} {key : κ} {value : α}
    (h : m.get? key = some value) : (key, value) ∈ m.entries :=
  mem_of_find? h

theorem get?_insert_self (m : OrderedMap κ α) (key : κ) (value : α) :
    (m.insert key value).get? key = some value := by
  rw [get?_insert, if_pos rfl]

/-- Setting a key to the value it has already, or has not at all, keeps every entry. -/
theorem get?_insert_of_same {m : OrderedMap κ α} {key other : κ} {new value : α}
    (hsame : ∀ v, m.get? key = some v → v = new) (h : m.get? other = some value) :
    (m.insert key new).get? other = some value := by
  rw [get?_insert]
  split
  · next heq =>
      subst heq
      rw [hsame value h]
  · exact h

theorem get?_insert_of_missing {m : OrderedMap κ α} {key other : κ} {value : α}
    (hmissing : m.get? key = none) (h : m.get? other = some value) (new : α) :
    (m.insert key new).get? other = some value := by
  refine get?_insert_of_same (fun v hv => ?_) h
  rw [hmissing] at hv
  cases hv

theorem get?_insertIfNew (m : OrderedMap κ α) (key other : κ) (value : α) :
    (m.insertIfNew key value).get? other =
      (m.get? other).or (if key = other then some value else none) := by
  unfold insertIfNew contains
  split
  · next hkey =>
      split
      · next heq =>
          subst heq
          cases hget : m.get? key with
          | none => simp [hget] at hkey
          | some found => rfl
      · simp
  · next hkey =>
      rw [get?_insert]
      split
      · next heq =>
          subst heq
          cases hget : m.get? key with
          | none => rfl
          | some found => simp [hget] at hkey
      · simp

theorem nodup_keys_insert {m : OrderedMap κ α} (h : m.keys.Nodup) (key : κ) (value : α) :
    (m.insert key value).keys.Nodup :=
  nodup_keys_put h key value

theorem nodup_keys_insertIfNew {m : OrderedMap κ α} (h : m.keys.Nodup) (key : κ) (value : α) :
    (m.insertIfNew key value).keys.Nodup := by
  unfold insertIfNew
  split
  · exact h
  · exact nodup_keys_insert h key value

theorem mem_entries_insert {m : OrderedMap κ α} {key : κ} {value : α} {entry : κ × α}
    (h : entry ∈ (m.insert key value).entries) : entry ∈ m.entries ∨ entry = (key, value) :=
  mem_of_mem_put h

theorem mem_entries_insertIfNew {m : OrderedMap κ α} {key : κ} {value : α} {entry : κ × α}
    (h : entry ∈ (m.insertIfNew key value).entries) :
    entry ∈ m.entries ∨ entry = (key, value) := by
  unfold insertIfNew at h
  split at h
  · exact .inl h
  · exact mem_entries_insert h

theorem size_insert_le (m : OrderedMap κ α) (key : κ) (value : α) :
    (m.insert key value).size ≤ m.size + 1 :=
  length_put_le key value m.entries

/-! ## Maps of lists -/

theorem ofList_concat (entries : List (κ × α)) (entry : κ × α) :
    ofList (entries ++ [entry]) = (ofList entries).insert entry.1 entry.2 := by
  simp [ofList]

theorem entries_ofList (entries : List (κ × α)) :
    (ofList entries).entries =
      entries.foldl (fun done entry => put entry.1 entry.2 done) [] := by
  induction entries using List.reverseRecOn with
  | nil => rfl
  | append_singleton entries entry ih =>
      rw [ofList_concat, List.foldl_concat, ← ih]
      rfl

/-- The entries of a list without repeated keys are those of its map. -/
theorem entries_ofList_of_nodup {entries : List (κ × α)} (h : (entries.map (·.1)).Nodup) :
    (ofList entries).entries = entries := by
  rw [entries_ofList, foldl_put_of_nodup (by simpa using h), List.nil_append]

/-- Values may be replaced before or after the map is built. -/
theorem entries_ofList_map {β : Type} (f : κ × α → β) (entries : List (κ × α)) :
    (ofList (entries.map fun entry => (entry.1, f entry))).entries =
      (ofList entries).entries.map fun entry => (entry.1, f entry) := by
  have hput : ∀ (key : κ) (value : α) (done : List (κ × α)),
      put key (f (key, value)) (done.map fun entry => (entry.1, f entry)) =
        (put key value done).map fun entry => (entry.1, f entry) := by
    intro key value done
    induction done with
    | nil => rfl
    | cons entry rest ih =>
        by_cases hkey : entry.1 = key
        · simp [put, hkey]
        · simp [put, hkey, ih]
  induction entries using List.reverseRecOn with
  | nil => rfl
  | append_singleton entries entry ih =>
      rw [List.map_append, List.map_singleton, ofList_concat, ofList_concat]
      simp only [insert, ih, hput]

theorem mem_of_mem_ofList {entries : List (κ × α)} {entry : κ × α}
    (h : entry ∈ (ofList entries).entries) : entry ∈ entries := by
  induction entries using List.reverseRecOn with
  | nil => cases h
  | append_singleton entries last ih =>
      rw [ofList_concat] at h
      rcases mem_entries_insert h with h | rfl
      · exact List.mem_append_left _ (ih h)
      · simp

theorem nodup_keys_ofList (entries : List (κ × α)) : (ofList entries).keys.Nodup := by
  induction entries using List.reverseRecOn with
  | nil => simp [ofList, keys, empty]
  | append_singleton entries entry ih =>
      rw [ofList_concat]
      exact nodup_keys_insert ih _ _

theorem isSome_get?_ofList {entries : List (κ × α)} {entry : κ × α} (h : entry ∈ entries) :
    ((ofList entries).get? entry.1).isSome = true := by
  induction entries using List.reverseRecOn with
  | nil => cases h
  | append_singleton entries last ih =>
      rw [ofList_concat, get?_insert]
      split
      · rfl
      · next hne =>
          rcases List.mem_append.mp h with hmem | hmem
          · exact ih hmem
          · exact absurd (by rw [List.mem_singleton.mp hmem]) hne

/-- If all values at a key are the same, it does not matter that later ones win. -/
theorem get?_ofList_of_unique {entries : List (κ × α)} {key : κ}
    (h : ∀ value value', (key, value) ∈ entries → (key, value') ∈ entries → value = value') :
    (ofList entries).get? key = find? key entries := by
  cases hfind : find? key entries with
  | none =>
      have habsent := find?_eq_none_iff.mp hfind
      refine find?_eq_none_iff.mpr fun entry hentry => habsent entry (mem_of_mem_ofList hentry)
  | some value =>
      have hmem : (key, value) ∈ entries := mem_of_find? hfind
      obtain ⟨value', hvalue'⟩ := Option.isSome_iff_exists.mp (isSome_get?_ofList hmem)
      rw [hvalue', h value value' hmem (mem_of_mem_ofList (mem_of_get? hvalue'))]

/-! ## Keys and values of lists with repeated keys -/

def lastValue? (key : κ) (entries : List (κ × α)) : Option α :=
  ((entries.filter fun entry => entry.1 = key).getLast?).map (·.2)

/-- The keys of a list of entries, each where it appears first. -/
def firstKeys (entries : List (κ × α)) : List κ := (entries.map (·.1)).eraseDups

theorem get?_ofList (key : κ) (entries : List (κ × α)) :
    (ofList entries).get? key = lastValue? key entries := by
  induction entries using List.reverseRecOn with
  | nil => rfl
  | append_singleton entries entry ih =>
      rw [ofList_concat, get?_insert, lastValue?, List.filter_append, ih, lastValue?]
      by_cases hkey : entry.1 = key <;> simp [hkey]

theorem eraseDups_concat (keys : List κ) (key : κ) :
    (keys ++ [key]).eraseDups =
      if key ∈ keys then keys.eraseDups else keys.eraseDups ++ [key] := by
  rw [List.eraseDups_append]
  by_cases hmem : key ∈ keys
  · have hold : [key].removeAll keys = [] := by simp [List.removeAll, hmem]
    rw [hold, if_pos hmem]
    exact List.append_nil _
  · have hnew : [key].removeAll keys = [key] := by simp [List.removeAll, hmem]
    rw [hnew, if_neg hmem]
    rfl

theorem keys_ofList (entries : List (κ × α)) : (ofList entries).keys = firstKeys entries := by
  induction entries using List.reverseRecOn with
  | nil => rfl
  | append_singleton entries entry ih =>
      have hkeys : (ofList (entries ++ [entry])).keys =
          if entry.1 ∈ (ofList entries).keys then (ofList entries).keys
          else (ofList entries).keys ++ [entry.1] := by
        rw [ofList_concat]
        exact keys_put _ _ _
      rw [hkeys, ih, firstKeys, firstKeys, List.map_append, List.map_singleton, eraseDups_concat]
      simp only [List.mem_eraseDups]

theorem find?_of_mem {entries : List (κ × α)} (h : (entries.map (·.1)).Nodup) {entry : κ × α}
    (hentry : entry ∈ entries) : find? entry.1 entries = some entry.2 := by
  induction entries with
  | nil => cases hentry
  | cons first rest ih =>
      obtain ⟨hnew, hrest⟩ := List.nodup_cons.mp h
      rcases List.mem_cons.mp hentry with rfl | hmem
      · simp [find?]
      · have hne : first.1 ≠ entry.1 := by
          intro heq
          exact hnew (List.mem_map.mpr ⟨entry, hmem, heq.symm⟩)
        rw [find?, if_neg hne]
        exact ih hrest hmem

theorem get?_of_mem {m : OrderedMap κ α} (h : m.keys.Nodup) {entry : κ × α}
    (hentry : entry ∈ m.entries) : m.get? entry.1 = some entry.2 :=
  find?_of_mem h hentry

/-- A search through the entries from the last one on is a search through the keys. -/
theorem findSome?_reverse_entries {β : Type} {m : OrderedMap κ α} (h : m.keys.Nodup)
    (f : κ → α → Option β) :
    m.entries.reverse.findSome? (fun entry => f entry.1 entry.2) =
      m.keys.reverse.findSome? fun key => (m.get? key).bind (f key) := by
  rw [keys, ← List.map_reverse, List.findSome?_map, ← List.head?_filterMap, ← List.head?_filterMap]
  refine congrArg List.head? (List.filterMap_congr fun entry hentry => ?_)
  rw [Function.comp_apply, get?_of_mem h (List.mem_reverse.mp hentry), Option.bind_some]

/-- The value at the first key of a kind. -/
theorem map_find?_entries {m : OrderedMap κ α} (h : m.keys.Nodup) (p : κ → Bool) :
    (m.entries.find? fun entry => p entry.1).map (·.2) = (m.keys.find? p).bind m.get? := by
  have hkeys : m.keys.find? p = (m.entries.find? fun entry => p entry.1).map (·.1) := List.find?_map
  rw [hkeys]
  cases hfind : m.entries.find? fun entry => p entry.1 with
  | none => rfl
  | some entry =>
      have hvalue := get?_of_mem h (List.mem_of_find?_eq_some hfind)
      simp [hvalue]

end AsmNavigator.OrderedMap
