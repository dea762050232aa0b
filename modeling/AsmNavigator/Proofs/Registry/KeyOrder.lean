import AsmNavigator.Proofs.Registry.Versions
import Mathlib.Data.List.Basic

/-! # The order of version names

The keys of names are ordered: numbers by value, texts by their characters, a number before
a text, and a key before those that it begins. So the names of one directory, sorted
downwards, come with every name at least as great as those after it. Names that tie stay in
the order in which they are given, which therefore decides about them and nothing else.
-/

namespace AsmNavigator.VersionKey

/-! ## Keys -/

instance : Std.OrientedCmp comparePart where
  eq_swap {a b} := by
    cases a <;> cases b
    · exact Std.OrientedOrd.eq_swap
    · rfl
    · rfl
    · exact Std.OrientedOrd.eq_swap

instance : Std.TransCmp comparePart where
  isLE_trans {a b c} hab hbc := by
    cases a <;> cases b <;> cases c <;> simp only [comparePart] at *
    all_goals first | exact Std.TransOrd.isLE_trans hab hbc | contradiction | rfl

/-- Keys are compared part by part, like words. -/
theorem compareKeys_eq_compareLex : compareKeys = List.compareLex comparePart := by
  funext a b
  fun_induction compareKeys a b with
  | case1 => rfl
  | case2 => rfl
  | case3 => rfl
  | case4 a as b bs ih => rw [ih, List.compareLex_cons_cons]

instance : Std.TransCmp compareKeys := by
  rw [compareKeys_eq_compareLex]
  infer_instance

/-- What two keys have in common at the beginning does not decide between them. -/
theorem compareKeys_append (common as bs : VersionKey) :
    compareKeys (common ++ as) (common ++ bs) = compareKeys as bs := by
  induction common with
  | nil => rfl
  | cons part rest ih =>
      have hsame : comparePart part part = .eq := Std.ReflCmp.compare_self
      rw [List.cons_append, List.cons_append, compareKeys, hsame, ih]
      rfl

/-! ## Names -/

/-- A name that does not come after another one when names are sorted downwards. -/
def AtLeast (name other : String) : Prop :=
  ∃ key key', ofName name = .ok key ∧ ofName other = .ok key' ∧ (compareKeys key key').isGE = true

theorem AtLeast.refl {name : String} {key : VersionKey} (h : ofName name = .ok key) :
    AtLeast name name := by
  have hsame : compareKeys key key = .eq := Std.ReflCmp.compare_self
  exact ⟨key, key, h, h, by rw [hsame]; rfl⟩

theorem ofName_of_mem_keyed {names : List String} {items : List (VersionKey × String)}
    (h : keyed names = .ok items) {item : VersionKey × String} (hitem : item ∈ items) :
    ofName item.2 = .ok item.1 := by
  obtain ⟨name, -, hkeyed⟩ := exists_of_mem_mapM h hitem
  cases hkey : ofName name with
  | error fault =>
      rw [hkey] at hkeyed
      cases hkeyed
  | ok key =>
      rw [hkey] at hkeyed
      cases hkeyed
      exact hkey

theorem perm_of_descending {names sorted : List String} (h : descending names = .ok sorted) :
    sorted.Perm names := by
  obtain ⟨items, hkeyed, h⟩ := bind_eq_ok.mp h
  cases h
  rw [← map_snd_keyed hkeyed]
  exact (List.mergeSort_perm items _).map _

theorem mem_descending_iff {names sorted : List String} (h : descending names = .ok sorted)
    {name : String} : name ∈ sorted ↔ name ∈ names := (perm_of_descending h).mem_iff

theorem isGE_total (a b : VersionKey × String) :
    ((compareKeys a.1 b.1).isGE || (compareKeys b.1 a.1).isGE) = true := by
  have hswap : compareKeys b.1 a.1 = (compareKeys a.1 b.1).swap := Std.OrientedCmp.eq_swap
  rw [hswap]
  cases compareKeys a.1 b.1 <;> rfl

/-- Names that are sorted downwards are at least as great as all that come later. -/
theorem pairwise_descending {names sorted : List String} (h : descending names = .ok sorted) :
    sorted.Pairwise AtLeast := by
  obtain ⟨items, hkeyed, h⟩ := bind_eq_ok.mp h
  cases h
  rw [List.pairwise_map]
  have hsorted : (items.mergeSort fun a b => (compareKeys a.1 b.1).isGE).Pairwise
      fun a b => (compareKeys a.1 b.1).isGE = true :=
    List.pairwise_mergeSort (fun _ _ _ => Std.TransCmp.isGE_trans) isGE_total items
  refine hsorted.imp_of_mem fun ha hb hge => ?_
  exact ⟨_, _, ofName_of_mem_keyed hkeyed (List.mem_mergeSort.mp ha),
    ofName_of_mem_keyed hkeyed (List.mem_mergeSort.mp hb), hge⟩

theorem exists_key_of_descending {names sorted : List String}
    (h : descending names = .ok sorted) {name : String} (hname : name ∈ sorted) :
    ∃ key, ofName name = .ok key := by
  obtain ⟨items, hkeyed, h⟩ := bind_eq_ok.mp h
  cases h
  obtain ⟨item, hitem, rfl⟩ := List.mem_map.mp hname
  exact ⟨item.1, ofName_of_mem_keyed hkeyed (List.mem_mergeSort.mp hitem)⟩

/-- A name that is sorted downwards is at least as great as itself and all that come later. -/
theorem atLeast_of_descending {names before after : List String} {name other : String}
    (h : descending names = .ok (before ++ name :: after)) (hother : other ∈ name :: after) :
    AtLeast name other := by
  have hpairwise := (List.pairwise_append.mp (pairwise_descending h)).2.1
  rcases List.mem_cons.mp hother with rfl | hlater
  · obtain ⟨key, hkey⟩ := exists_key_of_descending h (List.mem_append_right before hother)
    exact AtLeast.refl hkey
  · exact (List.pairwise_cons.mp hpairwise).1 other hlater

/-- Of two names the greater one comes first. -/
theorem descending_pair {name other : String} {key key' : VersionKey}
    (hkey : ofName name = .ok key) (hkey' : ofName other = .ok key')
    (hlt : compareKeys key key' = .lt) : descending [name, other] = .ok [other, name] := by
  have hkeyed : keyed [name, other] = .ok [(key, name), (key', other)] := by
    simp only [keyed, List.mapM_cons, List.mapM_nil, hkey, hkey']
    rfl
  simp only [descending, hkeyed, bind, Except.bind]
  simp [List.mergeSort, List.MergeSort.Internal.splitInTwo, hlt, pure, Except.pure]

/-! ## Ties -/

theorem eq_of_comparePart_eq {a b : VersionPart} (h : comparePart a b = .eq) : a = b := by
  cases a <;> cases b
  · exact congrArg _ (Std.LawfulEqOrd.eq_of_compare h)
  · cases h
  · cases h
  · exact congrArg _ (Std.LawfulEqOrd.eq_of_compare h)

theorem eq_of_compareKeys_eq {key key' : VersionKey} (h : compareKeys key key' = .eq) :
    key = key' := by
  fun_induction compareKeys key key' with
  | case1 => rfl
  | case2 => cases h
  | case3 => cases h
  | case4 a as b bs ih =>
      obtain ⟨hpart, hrest⟩ := Ordering.then_eq_eq.mp h
      rw [eq_of_comparePart_eq hpart, ih hrest]

def place? (name : String) : Option VersionKey := (ofName name).toOption

/-- Names that share a place in the order, and names that have none, come in the same order. -/
def TiedAlike (names names' : List String) : Prop :=
  ∀ place : Option VersionKey,
    names'.filter (place? · = place) = names.filter (place? · = place)

theorem place?_of_ofName {name : String} {key : VersionKey} (h : ofName name = .ok key) :
    place? name = some key := by
  rw [place?, h]
  rfl

theorem AtLeast.place?_eq {name other : String} (hge : AtLeast name other)
    (hle : AtLeast other name) : place? name = place? other := by
  obtain ⟨key, key', hkey, hkey', hcompare⟩ := hge
  obtain ⟨low, high, hlow, hhigh, hswapped⟩ := hle
  obtain rfl : key' = low := Except.ok.inj (hkey'.symm.trans hlow)
  obtain rfl : key = high := Except.ok.inj (hkey.symm.trans hhigh)
  have hsame : compareKeys key key' = .eq := by
    have hswap : compareKeys key' key = (compareKeys key key').swap := Std.OrientedCmp.eq_swap
    rw [hswap] at hswapped
    cases hkeys : compareKeys key key' <;> simp_all
  rw [place?_of_ofName hkey, place?_of_ofName hkey', eq_of_compareKeys_eq hsame]

/-- Sorting keeps the order of names that share a place. -/
theorem filter_descending {names sorted : List String} (h : descending names = .ok sorted)
    (place : Option VersionKey) :
    sorted.filter (place? · = place) = names.filter (place? · = place) := by
  obtain ⟨items, hkeyed, h⟩ := bind_eq_ok.mp h
  cases h
  let tied : VersionKey × String → Bool := fun item => place? item.2 = place
  have hkeys : ∀ item ∈ items, place? item.2 = some item.1 := fun item hitem =>
    place?_of_ofName (ofName_of_mem_keyed hkeyed hitem)
  have hpairwise : (items.filter tied).Pairwise
      fun a b => (compareKeys a.1 b.1).isGE = true := by
    refine List.pairwise_of_forall_mem_list fun a ha b hb => ?_
    obtain ⟨ha, hplace⟩ := List.mem_filter.mp ha
    obtain ⟨hb, hplace'⟩ := List.mem_filter.mp hb
    have hsame : a.1 = b.1 := by
      refine Option.some.inj ?_
      rw [← hkeys a ha, ← hkeys b hb, of_decide_eq_true hplace, of_decide_eq_true hplace']
    have hcompare : compareKeys b.1 b.1 = .eq := Std.ReflCmp.compare_self
    rw [hsame, hcompare]
    rfl
  have hperm := List.mergeSort_perm items fun a b => (compareKeys a.1 b.1).isGE
  have hsublist : (items.filter tied).Sublist
      ((items.mergeSort fun a b => (compareKeys a.1 b.1).isGE).filter tied) := by
    have hkept := (List.sublist_mergeSort (fun _ _ _ => Std.TransCmp.isGE_trans) isGE_total
      hpairwise List.filter_sublist).filter tied
    simpa only [List.filter_filter, Bool.and_self] using hkept
  have hsame := hsublist.eq_of_length (hperm.filter tied).length_eq.symm
  rw [← map_snd_keyed hkeyed, List.filter_map, List.filter_map]
  exact congrArg (List.map (·.2)) hsame.symm

theorem TiedAlike.mem_iff {names names' : List String} (h : TiedAlike names names')
    {name : String} : name ∈ names' ↔ name ∈ names := by
  have hsame := congrArg (name ∈ ·) (h (place? name))
  simpa using hsame

/-- Two lists in descending order are the same if their ties are. -/
theorem eq_of_tiedAlike {names names' : List String} (hsorted : names.Pairwise AtLeast)
    (hsorted' : names'.Pairwise AtLeast) (h : TiedAlike names names') : names' = names := by
  induction names generalizing names' with
  | nil =>
      refine List.eq_nil_iff_forall_not_mem.mpr fun name hname => ?_
      exact List.not_mem_nil (h.mem_iff.mp hname)
  | cons first rest ih =>
      cases names' with
      | nil => exact absurd (h.mem_iff.mpr List.mem_cons_self) List.not_mem_nil
      | cons first' rest' =>
          obtain ⟨hfirst, hrest⟩ := List.pairwise_cons.mp hsorted
          obtain ⟨hfirst', hrest'⟩ := List.pairwise_cons.mp hsorted'
          have hplace : place? first' = place? first := by
            rcases List.mem_cons.mp (h.mem_iff.mp List.mem_cons_self) with heq | hlater
            · rw [heq]
            rcases List.mem_cons.mp (h.mem_iff.mpr List.mem_cons_self) with heq | hlater'
            · rw [heq]
            exact (hfirst' first hlater').place?_eq (hfirst first' hlater)
          have hhead := h (place? first)
          rw [List.filter_cons_of_pos (by simpa using hplace),
            List.filter_cons_of_pos (by simp)] at hhead
          obtain rfl : first' = first := (List.cons.inj hhead).1
          have htied : TiedAlike rest rest' := by
            intro place
            have hboth := h place
            by_cases hfits : place? first' = place
            · rw [List.filter_cons_of_pos (by simpa using hfits),
                List.filter_cons_of_pos (by simpa using hfits)] at hboth
              exact (List.cons.inj hboth).2
            · rwa [List.filter_cons_of_neg (by simpa using hfits),
                List.filter_cons_of_neg (by simpa using hfits)] at hboth
          rw [ih hrest hrest' htied]

/-- The first name without a place decides what is raised. -/
theorem descending_of_placeless {names rest : List String} {name : String}
    (h : names.filter (place? · = none) = name :: rest) :
    ∃ fault, ofName name = .error fault ∧ descending names = .error fault := by
  have hkeyed : ∃ fault, ofName name = .error fault ∧ keyed names = .error fault := by
    induction names with
    | nil => cases h
    | cons first more ih =>
        cases hfirst : ofName first with
        | error fault =>
            have hplace : place? first = none := by
              rw [place?, hfirst]
              rfl
            rw [List.filter_cons_of_pos (by simpa using hplace)] at h
            obtain rfl : first = name := (List.cons.inj h).1
            refine ⟨fault, hfirst, ?_⟩
            rw [keyed, List.mapM_cons, hfirst]
            rfl
        | ok key =>
            rw [List.filter_cons_of_neg (by simp [place?_of_ofName hfirst])] at h
            obtain ⟨fault, hname, hmore⟩ := ih h
            refine ⟨fault, hname, ?_⟩
            rw [keyed] at hmore ⊢
            rw [List.mapM_cons, hfirst, hmore]
            rfl
  obtain ⟨fault, hname, hkeyed⟩ := hkeyed
  refine ⟨fault, hname, ?_⟩
  rw [descending, hkeyed]
  rfl

theorem exists_descending {names : List String} (h : names.filter (place? · = none) = []) :
    ∃ sorted, descending names = .ok sorted := by
  cases hdescending : descending names with
  | ok sorted => exact ⟨sorted, rfl⟩
  | error fault =>
      obtain ⟨name, hname, hfault⟩ := exists_of_descending_error hdescending
      have hplace : place? name = none := by
        rw [place?, hfault]
        rfl
      have hmem : name ∈ names.filter (place? · = none) :=
        List.mem_filter.mpr ⟨hname, by simpa using hplace⟩
      rw [h] at hmem
      cases hmem

/-- But for ties and names without a place, the order in which names are given does not
matter. -/
theorem TiedAlike.descending_eq {names names' : List String} (h : TiedAlike names names') :
    descending names' = descending names := by
  cases hnone : names.filter (place? · = none) with
  | nil =>
      obtain ⟨sorted, hsorted⟩ := exists_descending hnone
      obtain ⟨sorted', hsorted'⟩ := exists_descending ((h none).trans hnone)
      have htied : TiedAlike sorted sorted' := fun place => by
        rw [filter_descending hsorted, filter_descending hsorted', h place]
      rw [hsorted, hsorted',
        eq_of_tiedAlike (pairwise_descending hsorted) (pairwise_descending hsorted') htied]
  | cons name rest =>
      obtain ⟨fault, hname, hfault⟩ := descending_of_placeless hnone
      obtain ⟨fault', hname', hfault'⟩ := descending_of_placeless ((h none).trans hnone)
      obtain rfl : fault = fault' := Except.error.inj (hname.symm.trans hname')
      rw [hfault, hfault']

end AsmNavigator.VersionKey
