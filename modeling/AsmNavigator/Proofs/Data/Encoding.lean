import AsmNavigator.Data.Json.Writer
import AsmNavigator.Fault
import AsmNavigator.Proofs.Data.Kept
import AsmNavigator.Report
import Mathlib.Tactic.ByContra

/-! # What can be encoded

A text can be encoded if it holds no lone surrogates, and a value if all of its texts can.
Numbers and quoted texts always can, and so can the messages of faults.
-/

namespace AsmNavigator

namespace Text

/-! ## Texts that are put together -/

theorem isEncodable_append {s t : String} :
    IsEncodable (s ++ t) ↔ IsEncodable s ∧ IsEncodable t := by
  simp [IsEncodable, or_imp, forall_and]

theorem IsEncodable.append {s t : String} (hs : IsEncodable s) (ht : IsEncodable t) :
    IsEncodable (s ++ t) :=
  isEncodable_append.mpr ⟨hs, ht⟩

theorem isEncodable_ofList {cs : List Char} :
    IsEncodable (String.ofList cs) ↔ ∀ c ∈ cs, surrogate? c = none := by
  rw [IsEncodable, String.toList_ofList]

/-- A literal is the text of its characters, which are all there is to look at. -/
theorem IsEncodable.literal {cs : List Char} (h : cs.all (fun c => (surrogate? c).isNone) = true) :
    IsEncodable (String.ofList cs) := by
  simpa [isEncodable_ofList] using h

theorem isEncodable_toString (n : Nat) : IsEncodable (toString n) := by
  intro c hc
  have hdigits : c ∈ Nat.toDigits 10 n := by simpa using hc
  have hdigit : c.isDigit = true := Nat.isDigit_of_mem_toDigits (by decide) (by decide) hdigits
  apply surrogate?_eq_none
  simp only [Char.isDigit, Bool.and_eq_true, decide_eq_true_eq] at hdigit
  exact Nat.lt_of_le_of_lt hdigit.2 (by decide)

theorem isEncodable_intercalate {separator : String} {parts : List String}
    (hseparator : IsEncodable separator) (h : ∀ part ∈ parts, IsEncodable part) :
    IsEncodable (String.intercalate separator parts) := by
  induction parts with
  | nil => simp [IsEncodable]
  | cons part rest ih =>
      cases rest with
      | nil => simpa using h part List.mem_cons_self
      | cons next rest =>
          have hrest := ih fun p hp => h p (List.mem_cons_of_mem _ hp)
          rw [String.intercalate_cons_cons]
          exact ((h part List.mem_cons_self).append hseparator).append hrest

/-! ## Quoted texts -/

theorem surrogate?_hexDigit {n : Nat} (h : n < 16) : surrogate? (hexDigit n) = none := by
  have hall : ∀ m < 16, surrogate? (hexDigit m) = none := by decide
  exact hall n h

theorem surrogate?_of_mem_hexDigits {width n : Nat} {c : Char} (h : c ∈ hexDigits width n) :
    surrogate? c = none := by
  induction width generalizing n with
  | zero => cases h
  | succ width ih =>
      rcases List.mem_append.mp h with h | h
      · exact ih h
      · rw [List.mem_singleton.mp h]
        exact surrogate?_hexDigit (Nat.mod_lt n (by decide))

theorem surrogate?_of_mem_escapeCode {code : Nat} {c : Char} (h : c ∈ escapeCode code) :
    surrogate? c = none := by
  have hform : ∀ letter width, surrogate? letter = none →
      c ∈ '\\' :: letter :: hexDigits width code → surrogate? c = none := by
    intro letter width hletter hc
    rcases List.mem_cons.mp hc with rfl | hc
    · decide
    · rcases List.mem_cons.mp hc with rfl | hc
      · exact hletter
      · exact surrogate?_of_mem_hexDigits hc
  unfold escapeCode at h
  split at h
  · exact hform 'x' 2 (by decide) h
  · split at h
    · exact hform 'u' 4 (by decide) h
    · exact hform 'U' 8 (by decide) h

/-- The characters that stand for surrogates are not printable. -/
theorem surrogate?_of_isPrintable {c : Char} (h : isPrintable c = true) : surrogate? c = none := by
  by_contra hsurrogate
  have hrange : surrogateBase ≤ c.toNat ∧ c.toNat < surrogateBase + surrogateCount := by
    simpa [surrogate?] using hsurrogate
  have hprivate : (0xE01F0, 0x10FFFF) ∈ wideUnprintables := by decide +kernel
  have hcontains : wideUnprintables.contains c = true := by
    refine List.any_eq_true.mpr ⟨_, hprivate, ?_⟩
    simp only [surrogateBase, surrogateCount] at hrange
    simp only [Bool.and_eq_true, decide_eq_true_eq]
    omega
  have hwide : ¬ c.toNat < 128 := Nat.not_lt.mpr (Nat.le_trans (by decide) hrange.1)
  simp [isPrintable, hwide, hcontains] at h

theorem surrogate?_of_mem_escapeChar {quote c d : Char} (hquote : surrogate? quote = none)
    (h : d ∈ escapeChar quote c) : surrogate? d = none := by
  have hpair : ∀ letter, surrogate? letter = none → d ∈ ['\\', letter] → surrogate? d = none := by
    intro letter hletter hd
    rcases List.mem_cons.mp hd with rfl | hd
    · decide
    · rwa [List.mem_singleton.mp hd]
  unfold escapeChar at h
  split at h
  · next hescaped =>
      refine hpair c ?_ h
      rcases Bool.or_eq_true_iff.mp hescaped with heq | heq
      · rw [eq_of_beq heq]
        exact hquote
      · rw [eq_of_beq heq]
        decide
  · split at h
    · exact hpair 'n' (by decide) h
    · split at h
      · exact hpair 'r' (by decide) h
      · split at h
        · exact hpair 't' (by decide) h
        · split at h
          · next hprintable =>
              rw [List.mem_singleton.mp h]
              exact surrogate?_of_isPrintable hprintable
          · exact surrogate?_of_mem_escapeCode h

theorem surrogate?_of_mem_shownCode {quote d : Char} {code : Nat}
    (hquote : surrogate? quote = none) (h : d ∈ shownCode quote code) : surrogate? d = none := by
  unfold shownCode at h
  split at h
  · exact surrogate?_of_mem_escapeCode h
  · exact surrogate?_of_mem_escapeChar hquote h

theorem isEncodable_quoted (s : String) : IsEncodable (quoted s) := by
  have hquote : surrogate? (quoteFor s.toList) = none := by
    unfold quoteFor
    split <;> decide
  refine isEncodable_ofList.mpr fun d hd => ?_
  simp only [List.mem_append, List.mem_cons, List.mem_flatMap, List.not_mem_nil, or_false] at hd
  rcases hd with (rfl | ⟨code, -, hd⟩) | rfl
  · exact hquote
  · exact surrogate?_of_mem_shownCode hquote hd
  · exact hquote

/-! ## Runs of surrogates -/

namespace SurrogateRun

/-- There is a run unless every surrogate is let by. -/
theorem first?_eq_none_iff (passes : Nat → Bool) (s : String) :
    first? passes s = none ↔ ∀ c ∈ s.toList, (surrogate? c).all passes = true := by
  rw [← forall_surrogates_iff]
  unfold first?
  simp only
  generalize codePoints s.toList = codes
  induction codes with
  | nil => simp
  | cons code rest ih =>
      by_cases hfree : (!isSurrogate code || passes code) = true
      · have hcode : isSurrogate code = true → passes code = true := by
          intro hsurrogate
          simpa [hsurrogate] using hfree
        rw [List.forall_mem_cons, and_iff_right hcode, ← ih]
        simp [hfree]
      · have hsurrogate : isSurrogate code = true ∧ passes code = false := by
          simpa using hfree
        simp [hsurrogate]

theorem inText?_eq_none_iff (s : String) : inText? s = none ↔ IsEncodable s := by
  rw [inText?, first?_eq_none_iff]
  simp only [Option.all_eq_true, Bool.false_eq_true, IsEncodable, Option.eq_none_iff_forall_ne_some]

theorem isEncodable_message (run : SurrogateRun) : IsEncodable run.message := by
  unfold message
  refine .append (.append (.literal (by decide)) ?_) (.literal (by decide))
  split
  · next unit _ =>
      have hcode : IsEncodable (String.ofList (escapeCode unit)) :=
        isEncodable_ofList.mpr fun c => surrogate?_of_mem_escapeCode
      exact .append (.append (.literal (by decide)) hcode)
        (.append (.literal (by decide)) (isEncodable_toString _))
  · exact .append (.append (.append (.literal (by decide)) (isEncodable_toString _))
      (.literal (by decide))) (isEncodable_toString _)

end SurrogateRun

end Text

namespace Fault

open Text

theorem isEncodable_message (fault : Fault) : IsEncodable fault.message := by
  cases fault with
  | os cause path =>
      have htext : IsEncodable cause.text := by cases cause <;> exact .literal (by decide)
      exact .append (.append (.append (.append (.append (.literal (by decide))
        (isEncodable_toString _)) (.literal (by decide))) htext) (.literal (by decide)))
        (isEncodable_quoted path)
  | nullCharacter => exact .literal (by decide)
  | unencodable run => exact run.isEncodable_message
  | notANumber s =>
      have hcut : IsEncodable (String.ofList ((quoted s).toList.take 200)) :=
        isEncodable_ofList.mpr fun c hc => isEncodable_quoted s c (List.mem_of_mem_take hc)
      have hopening : IsEncodable s!"invalid literal for int() with base {10}: " := by decide
      exact hopening.append hcut
  | tooManyDigits count =>
      exact .append (.append (.literal (by decide)) (isEncodable_toString count))
        (.literal (by decide))
  | noSuchLine => exact .literal (by decide)
  | noHome => exact .literal (by decide)

theorem isEncodable_kind (fault : Fault) : IsEncodable fault.kind := by
  unfold kind
  split <;> exact .literal (by decide)

end Fault

/-! ## Values -/

namespace Json

theorem unencodable?_text (s : String) :
    unencodable? (.text s) = none ↔ Text.IsEncodable s :=
  Text.SurrogateRun.inText?_eq_none_iff s

theorem unencodable?_object (fields : List (String × Value)) :
    unencodable? (.object fields) = none ↔
      ∀ field ∈ fields, Text.IsEncodable field.1 ∧ unencodable? field.2 = none := by
  show unencodableMember? (fields.map fun field => (.text field.1, field.2)) = none ↔ _
  induction fields with
  | nil => simp [unencodableMember?]
  | cons field rest ih =>
      rw [List.map_cons, unencodableMember?, Option.or_eq_none_iff, Option.or_eq_none_iff, ih,
        List.forall_mem_cons]
      exact and_congr_left fun _ => and_congr_left fun _ => unencodable?_text field.1

end Json

theorem Report.unencodable?_toValue (report : Report) :
    Json.unencodable? report.toValue = none ↔
      Text.IsEncodable report.message ∧ ∀ detail ∈ report.details,
        Text.IsEncodable detail.1 ∧ Json.unencodable? detail.2 = none := by
  have hname : Text.IsEncodable report.name := by
    unfold name
    split <;> exact .literal (by decide)
  rw [toValue, Json.unencodable?_object]
  simp only [List.forall_mem_cons, Json.unencodable?_text, Json.unencodable?_object]
  constructor
  · rintro ⟨-, -, ⟨-, hmessage⟩, -, ⟨-, hdetails⟩, -⟩
    exact ⟨hmessage, hdetails⟩
  · rintro ⟨hmessage, hdetails⟩
    exact ⟨⟨.literal (by decide), rfl⟩, ⟨.literal (by decide), hname⟩,
      ⟨.literal (by decide), hmessage⟩, ⟨.literal (by decide), rfl⟩,
      ⟨.literal (by decide), hdetails⟩, nofun⟩

end AsmNavigator
