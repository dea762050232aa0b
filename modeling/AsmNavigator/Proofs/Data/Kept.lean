import AsmNavigator.Text.Surrogate

/-! # How texts are kept

Every text has one form in which it is kept, and its code points are read back from it: a
stand-in for a surrogate is never taken for the character that it is, nor the other way
round. So a text can be encoded if there is no stand-in among its characters, and all that
is put together from characters can.
-/

namespace AsmNavigator.Text

theorem isSurrogate_iff {n : Nat} : isSurrogate n = true ↔ 0xD800 ≤ n ∧ n < 0xE000 := by
  rw [isSurrogate, Bool.and_eq_true, decide_eq_true_eq, decide_eq_true_eq]
  rfl

theorem isSurrogate_eq_false_iff {n : Nat} : isSurrogate n = false ↔ n < 0xD800 ∨ 0xE000 ≤ n := by
  rw [← Bool.not_eq_true, isSurrogate_iff]
  omega

theorem isSurrogate_toNat (c : Char) : isSurrogate c.toNat = false := by
  have hvalid : c.toNat < 0xD800 ∨ 0xDFFF < c.toNat ∧ c.toNat < 0x110000 := c.valid
  rw [isSurrogate_eq_false_iff]
  omega

theorem toNat_ofNat {n : Nat} (hsmall : n < 0x110000) (hcode : isSurrogate n = false) :
    (Char.ofNat n).toNat = n := by
  have hvalid : n.isValidChar := by
    rcases isSurrogate_eq_false_iff.mp hcode with hlow | hhigh
    · exact .inl hlow
    · exact .inr ⟨hhigh, hsmall⟩
  rw [Char.ofNat, dif_pos hvalid]
  rfl

/-! ## Stand-ins and pairs -/

theorem surrogate?_eq_none {c : Char} (h : c.toNat < surrogateBase) : surrogate? c = none := by
  simp [surrogate?, Nat.not_le.mpr h]

theorem isSurrogate_of_surrogate? {c : Char} {unit : Nat} (h : surrogate? c = some unit) :
    isSurrogate unit = true := by
  unfold surrogate? at h
  split at h
  · next hrange =>
      obtain rfl := Option.some.inj h
      rw [Bool.and_eq_true, decide_eq_true_eq, decide_eq_true_eq] at hrange
      simp only [surrogateBase, surrogateCount] at hrange
      rw [isSurrogate_iff, firstSurrogate, surrogateBase]
      omega
  · cases h

theorem toNat_mark : mark.toNat = markCode := toNat_ofNat (by decide) (by decide)

theorem surrogate?_mark : surrogate? mark = none :=
  surrogate?_eq_none (by rw [toNat_mark]; decide)

theorem isCompanion_iff {c : Char} :
    isCompanion c = true ↔ 0x10F7FF ≤ c.toNat + 0x801 ∧ c.toNat < 0x10F7FF := by
  rw [isCompanion, Bool.and_eq_true, decide_eq_true_eq, decide_eq_true_eq]
  rfl

/-- A companion is no stand-in, and what its pair is kept for is no surrogate. -/
theorem companion_spec {c : Char} (h : isCompanion c = true) :
    surrogate? c = none ∧ isSurrogate (c.toNat + markShift) = false := by
  have hrange := isCompanion_iff.mp h
  refine ⟨surrogate?_eq_none (Nat.lt_of_lt_of_le hrange.2 (by decide)), ?_⟩
  rw [isSurrogate_eq_false_iff]
  exact .inr (Nat.le_trans (by decide) hrange.1)

/-- The surrogates among the code points of a text are those that its characters stand for. -/
theorem forall_surrogates_iff (p : Nat → Bool) (cs : List Char) :
    (∀ code ∈ codePoints cs, isSurrogate code = true → p code = true) ↔
      ∀ c ∈ cs, (surrogate? c).all p = true := by
  have hone (c : Char) : (isSurrogate ((surrogate? c).getD c.toNat) = true →
      p ((surrogate? c).getD c.toNat) = true) ↔ (surrogate? c).all p = true := by
    cases hc : surrogate? c with
    | none => simp [isSurrogate_toNat]
    | some unit => simp [isSurrogate_of_surrogate? hc]
  fun_induction codePoints cs with
  | case1 => simp
  | case2 c => simpa using hone c
  | case3 c d rest hpair ih =>
      simp only [Bool.and_eq_true, decide_eq_true_eq] at hpair
      obtain ⟨rfl, hcompanion⟩ := hpair
      obtain ⟨hd, hcode⟩ := companion_spec hcompanion
      simp only [List.forall_mem_cons, surrogate?_mark, hd, hcode, ih, Option.all_none,
        Bool.false_eq_true, false_implies, true_and]
  | case4 c d rest hpair ih =>
      rw [List.forall_mem_cons, hone, List.forall_mem_cons]
      exact and_congr_right fun _ => ih

/-! ## Reading back -/

theorem codePoints_cons {c : Char} (hc : c ≠ mark) (cs : List Char) :
    codePoints (c :: cs) = (surrogate? c).getD c.toNat :: codePoints cs := by
  cases cs with
  | nil => rfl
  | cons d rest => simp [codePoints, hc]

theorem codePoints_standIn {code : Nat} (h : isSurrogate code = true) {c : Char}
    (hc : c.toNat = surrogateBase + (code - firstSurrogate)) (cs : List Char) :
    codePoints (c :: cs) = code :: codePoints cs := by
  have hrange := isSurrogate_iff.mp h
  have hmark : c ≠ mark := by
    rintro rfl
    simp only [toNat_mark, markCode, surrogateBase] at hc
    omega
  have hread : surrogate? c = some code := by
    have hstand : (surrogateBase ≤ c.toNat && c.toNat < surrogateBase + surrogateCount) = true := by
      rw [Bool.and_eq_true, decide_eq_true_eq, decide_eq_true_eq, hc, firstSurrogate,
        surrogateCount]
      omega
    have hback : firstSurrogate + (c.toNat - surrogateBase) = code := by
      simp only [hc, firstSurrogate]
      omega
    rw [surrogate?, if_pos hstand, hback]
  rw [codePoints_cons hmark, hread, Option.getD_some]

theorem codePoints_pair {code : Nat} (h : markCode ≤ code) (hsmall : code < 0x110000) {c : Char}
    (hc : c.toNat = code - markShift) (cs : List Char) :
    codePoints (mark :: c :: cs) = code :: codePoints cs := by
  simp only [markCode, surrogateBase, markShift, surrogateCount] at h hc
  have hcompanion : isCompanion c = true := isCompanion_iff.mpr (by omega)
  have hback : c.toNat + markShift = code := by
    simp only [markShift, surrogateCount]
    omega
  simp [codePoints, hcompanion, hback]

theorem codePoints_ordinary {c : Char} (h : c.toNat < markCode) (cs : List Char) :
    codePoints (c :: cs) = c.toNat :: codePoints cs := by
  have hmark : c ≠ mark := by
    rintro rfl
    rw [toNat_mark] at h
    exact Nat.lt_irrefl _ h
  have hnone : surrogate? c = none :=
    surrogate?_eq_none (Nat.lt_of_lt_of_le h (by decide))
  rw [codePoints_cons hmark, hnone, Option.getD_none]

/-- A code point is read back, whatever follows. -/
theorem codePoints_charsOfCode {code : Nat} (h : code < 0x110000) (cs : List Char) :
    codePoints (charsOfCode code ++ cs) = code :: codePoints cs := by
  have hofNat : ∀ n, markCode - markShift ≤ n → n < 0x110000 → (Char.ofNat n).toNat = n := by
    intro n hlow hhigh
    exact toNat_ofNat hhigh
      (isSurrogate_eq_false_iff.mpr (.inr (Nat.le_trans (by decide) hlow)))
  unfold charsOfCode
  split
  · next hsurrogate =>
      have hrange := isSurrogate_iff.mp hsurrogate
      refine codePoints_standIn hsurrogate (hofNat _ (Nat.le_add_right_of_le (by decide)) ?_) cs
      simp only [surrogateBase, firstSurrogate]
      omega
  · next hvalid =>
      split
      · next hmarked =>
          exact codePoints_pair hmarked h
            (hofNat _ (Nat.sub_le_sub_right hmarked _) (Nat.lt_of_le_of_lt (Nat.sub_le ..) h)) cs
      · next hplain =>
          have hsame : (Char.ofNat code).toNat = code := toNat_ofNat h (by simpa using hvalid)
          have hordinary := codePoints_ordinary (by rw [hsame]; exact Nat.lt_of_not_le hplain) cs
          rwa [hsame] at hordinary

/-- Any sequence of code points is a text, and no two of them are kept in the same way. -/
theorem codePoints_flatMap_charsOfCode {codes : List Nat} (h : ∀ code ∈ codes, code < 0x110000) :
    codePoints (codes.flatMap charsOfCode) = codes := by
  induction codes with
  | nil => rfl
  | cons code rest ih =>
      obtain ⟨hcode, hrest⟩ := List.forall_mem_cons.mp h
      rw [List.flatMap_cons, codePoints_charsOfCode hcode, ih hrest]

theorem codePoints_kept (s : String) :
    codePoints (kept s).toList = s.toList.map Char.toNat := by
  have hcodes : (kept s).toList = (s.toList.map Char.toNat).flatMap charsOfCode := by
    rw [kept, String.toList_ofList, List.flatMap_map]
  rw [hcodes]
  refine codePoints_flatMap_charsOfCode fun code hcode => ?_
  obtain ⟨c, -, rfl⟩ := List.mem_map.mp hcode
  have hvalid : c.toNat < 0xD800 ∨ 0xDFFF < c.toNat ∧ c.toNat < 0x110000 := c.valid
  omega

theorem characters_kept (s : String) : characters (kept s) = s := by
  have hchar : ∀ c : Char,
      (if isSurrogate c.toNat then '\uFFFD' else Char.ofNat c.toNat) = c := by
    intro c
    rw [isSurrogate_toNat, Char.ofNat_toNat]
    rfl
  rw [characters, codePoints_kept, List.map_map]
  simp only [Function.comp_def, hchar, List.map_id', String.ofList_toList]

/-! ## Texts that can be encoded -/

/-- A text without lone surrogates. -/
def IsEncodable (s : String) : Prop := ∀ c ∈ s.toList, surrogate? c = none

instance (s : String) : Decidable (IsEncodable s) :=
  List.decidableBAll (fun c => surrogate? c = none) s.toList

theorem isEncodable_iff (s : String) :
    IsEncodable s ↔ ∀ code ∈ codePoints s.toList, isSurrogate code = false := by
  have hall := forall_surrogates_iff (fun _ => false) s.toList
  simp only [Bool.false_eq_true, imp_false, Bool.not_eq_true, Option.all_eq_true] at hall
  simp only [IsEncodable, Option.eq_none_iff_forall_ne_some, hall]

/-- Characters as they stand can be encoded. -/
theorem isEncodable_kept (s : String) : IsEncodable (kept s) := by
  rw [isEncodable_iff, codePoints_kept]
  intro code hcode
  obtain ⟨c, -, rfl⟩ := List.mem_map.mp hcode
  exact isSurrogate_toNat c

end AsmNavigator.Text
