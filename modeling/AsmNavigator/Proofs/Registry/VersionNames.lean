import AsmNavigator.Proofs.Registry.KeyOrder

/-! # Names that begin with the name of a package

After the name of a package and a dash there stands either a version, which begins with a
digit, or the rest of a longer package name. Versions compare as lists of numbers do. A
longer package name is greater than every version: up to the first digit its text goes on
where that of the version ends.
-/

namespace AsmNavigator

namespace VersionKey

/-! ## Runs -/

section Runs

variable {p : Char → Bool}

theorem runs_cons (p : Char → Bool) (c : Char) (rest : List Char) :
    ∃ run more, runs p (c :: rest) = (c :: run) :: more := by
  unfold runs
  split
  · split
    · exact ⟨_, _, rfl⟩
    · exact ⟨_, _, rfl⟩
  · exact ⟨_, _, rfl⟩

/-- Characters of one class before a character of the other one are a run. -/
theorem runs_append_of_all {b : Bool} {xs ys : List Char} (hne : xs ≠ [])
    (hxs : ∀ x ∈ xs, p x = b) (hys : ∀ y ∈ ys.head?, p y ≠ b) :
    runs p (xs ++ ys) = xs :: runs p ys := by
  induction xs with
  | nil => exact absurd rfl hne
  | cons x rest ih =>
      have hx : p x = b := hxs x (by simp)
      cases rest with
      | nil =>
          cases ys with
          | nil => rfl
          | cons y ys =>
              obtain ⟨run, more, hrun⟩ := runs_cons p y ys
              have hy : p x ≠ p y := by
                rw [hx]
                exact Ne.symm (hys y rfl)
              rw [List.singleton_append, runs, hrun]
              simp [hy]
      | cons second rest =>
          have hsecond : p x = p second := by rw [hx, hxs second (by simp)]
          have hrest := ih (by simp) fun z hz => hxs z (List.mem_cons_of_mem _ hz)
          rw [List.cons_append] at hrest
          rw [List.cons_append, List.cons_append, runs, hrest]
          simp [hsecond]

/-- A character in front changes the runs up to a given one, whatever comes after it. -/
theorem exists_runs_cons (p : Char → Bool) (x c : Char) (init : List (List Char))
    (run : List Char) :
    ∃ init' run', ∀ rest tail after, runs p rest = init ++ (run ++ c :: tail) :: after →
      runs p (x :: rest) = init' ++ (run' ++ c :: tail) :: after := by
  cases init with
  | cons first init =>
      cases first with
      | nil => exact ⟨[x] :: [] :: init, run, fun _ _ _ h => by simp [runs, h]⟩
      | cons d first =>
          by_cases hd : p x = p d
          · exact ⟨(x :: d :: first) :: init, run, fun _ _ _ h => by simp [runs, h, hd]⟩
          · exact ⟨[x] :: (d :: first) :: init, run, fun _ _ _ h => by simp [runs, h, hd]⟩
  | nil =>
      cases run with
      | nil =>
          by_cases hc : p x = p c
          · exact ⟨[], [x], fun _ _ _ h => by simp [runs, h, hc]⟩
          · exact ⟨[[x]], [], fun _ _ _ h => by simp [runs, h, hc]⟩
      | cons d run =>
          by_cases hd : p x = p d
          · exact ⟨[], x :: d :: run, fun _ _ _ h => by simp [runs, h, hd]⟩
          · exact ⟨[[x]], d :: run, fun _ _ _ h => by simp [runs, h, hd]⟩

/-- What follows a character either begins a run or goes on with that of the character. -/
theorem exists_runs_append (p : Char → Bool) (xs : List Char) (c : Char) :
    ∃ init run,
      (∀ ys, (∀ y ∈ ys.head?, p y ≠ p c) →
        runs p (xs ++ c :: ys) = init ++ (run ++ [c]) :: runs p ys) ∧
      ∀ y ys, p y = p c → ∃ more after,
        runs p (xs ++ c :: y :: ys) = init ++ (run ++ c :: y :: more) :: after := by
  induction xs with
  | nil =>
      refine ⟨[], [], ?_, ?_⟩
      · intro ys hys
        exact runs_append_of_all (List.cons_ne_nil c []) (by simp) hys
      · intro y ys hy
        obtain ⟨more, after, hrun⟩ := runs_cons p y ys
        refine ⟨more, after, ?_⟩
        rw [List.nil_append, runs, hrun]
        simp [hy]
  | cons x xs ih =>
      obtain ⟨init, run, hbreak, hsame⟩ := ih
      obtain ⟨init', run', hcons⟩ := exists_runs_cons p x c init run
      refine ⟨init', run', ?_, ?_⟩
      · intro ys hys
        exact hcons _ [] _ (hbreak ys hys)
      · intro y ys hy
        obtain ⟨more, after, hrun⟩ := hsame y ys hy
        exact ⟨more, after, hcons _ _ _ hrun⟩

end Runs

/-! ## Texts that go on after a dash -/

section Dash

open Text

theorem startsCased_append_dash (xs ys : List Char) :
    startsCased (xs ++ '-' :: ys) = startsCased (xs ++ ['-']) := by
  have hdash : caseIgnorables.contains '-' = false := by decide +kernel
  induction xs with
  | nil => simp [startsCased, hdash]
  | cons x xs ih =>
      cases hx : caseIgnorables.contains x with
      | true => simpa [startsCased, hx] using ih
      | false => simp [startsCased, hx]

theorem lowerAfter_ne_nil (before : List Char) {cs : List Char} (hcs : cs ≠ []) :
    lowerAfter before cs ≠ [] := by
  obtain ⟨c, rest, rfl⟩ := List.exists_cons_of_ne_nil hcs
  rw [lowerAfter]
  split
  · exact List.cons_ne_nil _ _
  · split <;> exact List.cons_ne_nil _ _

/-- The dash keeps the letters after it from having a say in the form of those before. -/
theorem exists_lowerAfter_append_dash (before xs : List Char) {tail : List Char}
    (htail : tail ≠ []) :
    ∃ more, more ≠ [] ∧
      lowerAfter before (xs ++ '-' :: tail) = lowerAfter before (xs ++ ['-']) ++ more := by
  induction xs generalizing before with
  | nil => exact ⟨lowerAfter ('-' :: before) tail, lowerAfter_ne_nil _ htail, rfl⟩
  | cons x xs ih =>
      obtain ⟨more, hmore, heq⟩ := ih (x :: before)
      refine ⟨more, hmore, ?_⟩
      rw [List.cons_append, List.cons_append, lowerAfter, lowerAfter,
        startsCased_append_dash xs tail, heq, List.append_assoc]

theorem lt_append_of_ne_nil (cs : List Char) {more : List Char} (hmore : more ≠ []) :
    cs < cs ++ more := by
  obtain ⟨c, rest, rfl⟩ := List.exists_cons_of_ne_nil hmore
  induction cs with
  | nil => exact List.Lex.nil
  | cons d cs ih => exact List.Lex.cons ih

theorem comparePart_text_of_lt {s t : String} (h : s < t) :
    comparePart (.text s) (.text t) = .lt := by
  simp only [comparePart, compare, String.compare, compareOfLessAndEq, h, if_true]

def dashPart (run tail : List Char) : VersionPart :=
  .text (lowerCase (String.ofList (run ++ '-' :: tail)))

theorem partOfRun_append_dash (run tail : List Char) :
    partOfRun (run ++ '-' :: tail) = .ok (dashPart run tail) := by
  have hdash : '-' ∈ run ++ '-' :: tail := by simp
  have hdecimal : (run ++ '-' :: tail).all isDecimalDigit = false :=
    List.all_eq_false.mpr ⟨'-', hdash, by decide +kernel⟩
  have hlike : (run ++ '-' :: tail).all isDigitLike = false :=
    List.all_eq_false.mpr ⟨'-', hdash, by decide +kernel⟩
  rw [partOfRun, hdecimal, hlike]
  rfl

/-- A text that goes on after a dash is greater than the one that ends there. -/
theorem comparePart_dashPart (run : List Char) {tail : List Char} (htail : tail ≠ []) :
    comparePart (dashPart run []) (dashPart run tail) = .lt := by
  obtain ⟨more, hmore, heq⟩ := exists_lowerAfter_append_dash [] run htail
  refine comparePart_text_of_lt (String.lt_iff.mpr ?_)
  simp only [lowerCase, String.toList_ofList, heq]
  exact lt_append_of_ne_nil _ hmore

end Dash

/-! ## Versions -/

def dotted : List Nat → List Char
  | [] => []
  | [n] => Nat.toDigits 10 n
  | n :: m :: rest => Nat.toDigits 10 n ++ '.' :: dotted (m :: rest)

def numberParts : List Nat → VersionKey
  | [] => []
  | [n] => [.number n]
  | n :: m :: rest => .number n :: .text "." :: numberParts (m :: rest)

theorem toNat_lt_of_isDigit {c : Char} (h : c.isDigit = true) : c.toNat < 128 := by
  simp only [Char.isDigit, Bool.and_eq_true, decide_eq_true_eq] at h
  have hnine : c.toNat ≤ 57 := h.2
  omega

theorem isDecimalDigit_of_isDigit {c : Char} (h : c.isDigit = true) :
    Text.isDecimalDigit c = true := by
  simp [Text.isDecimalDigit, Text.decimalValue?, toNat_lt_of_isDigit h, h]

theorem isDecimalDigit_of_mem_toDigits {n : Nat} {c : Char} (h : c ∈ Nat.toDigits 10 n) :
    Text.isDecimalDigit c = true :=
  isDecimalDigit_of_isDigit (Nat.isDigit_of_mem_toDigits (by decide) (by decide) h)

theorem decimalValue_of_isDigit {c : Char} (h : c.isDigit = true) :
    (Text.decimalValue? c).getD 0 = c.toNat - '0'.toNat := by
  simp [Text.decimalValue?, toNat_lt_of_isDigit h, h]

theorem decimalNumber_toDigits (n : Nat) : Text.decimalNumber (Nat.toDigits 10 n) = n := by
  have hdigits : ∀ c ∈ Nat.toDigits 10 n, c.isDigit = true := fun c hc =>
    Nat.isDigit_of_mem_toDigits (by decide) (by decide) hc
  calc Text.decimalNumber (Nat.toDigits 10 n)
      = (Nat.toDigits 10 n).foldl (fun m c => 10 * m + (c.toNat - '0'.toNat)) 0 :=
        List.foldl_ext _ _ _ fun m c hc => by rw [decimalValue_of_isDigit (hdigits c hc)]
    _ = Nat.ofDigitChars 10 (Nat.toDigits 10 n) 0 := (Nat.ofDigitChars_eq_foldl ..).symm
    _ = n := Nat.ofDigitChars_toDigits (by decide) (by decide)

theorem toDigits_head_isDecimalDigit (n : Nat) :
    ∀ c ∈ (Nat.toDigits 10 n).head?, Text.isDecimalDigit c = true :=
  fun _ hc => isDecimalDigit_of_mem_toDigits (List.mem_of_mem_head? hc)

theorem dotted_head_isDecimalDigit (numbers : List Nat) :
    ∀ c ∈ (dotted numbers).head?, Text.isDecimalDigit c = true := by
  fun_cases dotted numbers with
  | case1 => simp
  | case2 n => exact toDigits_head_isDecimalDigit n
  | case3 n m rest =>
      rw [List.head?_append_of_ne_nil _ Nat.toDigits_ne_nil]
      exact toDigits_head_isDecimalDigit n

theorem runs_toDigits_append (n : Nat) {ys : List Char}
    (hys : ∀ y ∈ ys.head?, Text.isDecimalDigit y = false) :
    runs Text.isDecimalDigit (Nat.toDigits 10 n ++ ys) =
      Nat.toDigits 10 n :: runs Text.isDecimalDigit ys :=
  runs_append_of_all Nat.toDigits_ne_nil (fun _ hc => isDecimalDigit_of_mem_toDigits hc)
    fun y hy => by simp [hys y hy]

theorem runs_dot_append {ys : List Char}
    (hys : ∀ y ∈ ys.head?, Text.isDecimalDigit y = true) :
    runs Text.isDecimalDigit ('.' :: ys) = ['.'] :: runs Text.isDecimalDigit ys := by
  have hdot : Text.isDecimalDigit '.' = false := by decide +kernel
  refine runs_append_of_all (List.cons_ne_nil '.' []) (b := false) ?_ fun y hy => by simp [hys y hy]
  intro x hx
  rw [List.mem_singleton.mp hx, hdot]

theorem eq_number_of_partOfRun {n : Nat} {part : VersionPart}
    (h : partOfRun (Nat.toDigits 10 n) = .ok part) : part = .number n := by
  have hall : (Nat.toDigits 10 n).all Text.isDecimalDigit = true :=
    List.all_eq_true.mpr fun c hc => isDecimalDigit_of_mem_toDigits hc
  unfold partOfRun at h
  rw [if_pos hall] at h
  split at h
  · cases h
  · cases h
    rw [decimalNumber_toDigits]

/-- A dotted version is sorted by its numbers. -/
theorem eq_numberParts_of_mapM {numbers : List Nat} {key : VersionKey}
    (h : (runs Text.isDecimalDigit (dotted numbers)).mapM partOfRun = .ok key) :
    key = numberParts numbers := by
  fun_induction dotted numbers generalizing key with
  | case1 =>
      cases h
      rfl
  | case2 n =>
      rw [← List.append_nil (Nat.toDigits 10 n), runs_toDigits_append n (by simp)] at h
      obtain ⟨part, parts, hpart, hparts, rfl⟩ := mapM_cons_eq_ok h
      cases hparts
      rw [eq_number_of_partOfRun hpart]
      rfl
  | case3 n m rest ih =>
      have hdot : Text.isDecimalDigit '.' = false := by decide +kernel
      rw [runs_toDigits_append n (by simpa using hdot),
        runs_dot_append (dotted_head_isDecimalDigit _)] at h
      obtain ⟨part, parts, hpart, hparts, rfl⟩ := mapM_cons_eq_ok h
      obtain ⟨dot, rest, hdotPart, hrest, rfl⟩ := mapM_cons_eq_ok hparts
      have hdotText : partOfRun ['.'] = .ok (.text ".") := by decide +kernel
      rw [hdotText] at hdotPart
      cases hdotPart
      rw [eq_number_of_partOfRun hpart, ih hrest]
      rfl

theorem exists_numberParts_cons (n : Nat) (rest : List Nat) :
    ∃ parts, numberParts (n :: rest) = .number n :: parts := by
  cases rest with
  | nil => exact ⟨[], rfl⟩
  | cons m rest => exact ⟨_, rfl⟩

theorem compareKeys_numberParts_cons (m n : Nat) (as bs : List Nat) :
    compareKeys (numberParts (m :: as)) (numberParts (n :: bs)) =
      (compare m n).then (compareKeys (numberParts as) (numberParts bs)) := by
  cases as with
  | nil =>
      cases bs with
      | nil => rfl
      | cons b bs =>
          obtain ⟨parts, hparts⟩ := exists_numberParts_cons b bs
          simp only [numberParts, hparts]
          rfl
  | cons a as =>
      cases bs with
      | nil =>
          obtain ⟨parts, hparts⟩ := exists_numberParts_cons a as
          simp only [numberParts, hparts]
          rfl
      | cons b bs =>
          have hdot := compareKeys_append [.text "."] (numberParts (a :: as))
            (numberParts (b :: bs))
          rw [numberParts, numberParts, compareKeys, ← hdot]
          rfl

/-- Dotted versions compare number by number; what is a beginning of another is smaller. -/
theorem isGE_compareKeys_numberParts (a b : List Nat) :
    (compareKeys (numberParts a) (numberParts b)).isGE = true ↔
      b = a ∨ List.Lex (· < ·) b a := by
  induction a generalizing b with
  | nil =>
      cases b with
      | nil => simp [numberParts, compareKeys]
      | cons n b =>
          obtain ⟨parts, hparts⟩ := exists_numberParts_cons n b
          simp [numberParts, hparts, compareKeys, List.not_lex_nil]
  | cons m a ih =>
      cases b with
      | nil =>
          obtain ⟨parts, hparts⟩ := exists_numberParts_cons m a
          simp [numberParts, hparts, compareKeys]
      | cons n b =>
          rw [compareKeys_numberParts_cons, List.cons_lex_cons_iff, List.cons.injEq]
          rcases Nat.lt_trichotomy m n with hlt | rfl | hgt
          · have hcompare : compare m n = .lt := Nat.compare_eq_lt.mpr hlt
            simp [hcompare]
            omega
          · simp [ih b]
          · have hcompare : compare m n = .gt := Nat.compare_eq_gt.mpr hgt
            simp [hcompare, hgt]

/-! ## Keys of the names of one package -/

/-- Up to the first digit after the dash, the keys of a package's versions are the same. A
name that goes on otherwise has the same key with a longer text in that place. -/
theorem exists_key_of_dash (package : List Char) :
    ∃ (init : List (List Char)) (run : List Char),
      (∀ ys key, (∀ y ∈ ys.head?, Text.isDecimalDigit y = true) →
        (runs Text.isDecimalDigit (package ++ '-' :: ys)).mapM partOfRun = .ok key →
        ∃ common rest, init.mapM partOfRun = .ok common ∧
          (runs Text.isDecimalDigit ys).mapM partOfRun = .ok rest ∧
          key = common ++ dashPart run [] :: rest) ∧
      ∀ y ys key, Text.isDecimalDigit y = false →
        (runs Text.isDecimalDigit (package ++ '-' :: y :: ys)).mapM partOfRun = .ok key →
        ∃ common tail rest, init.mapM partOfRun = .ok common ∧ tail ≠ [] ∧
          key = common ++ dashPart run tail :: rest := by
  have hdash : Text.isDecimalDigit '-' = false := by decide +kernel
  obtain ⟨init, run, hbreak, hsame⟩ := exists_runs_append Text.isDecimalDigit package '-'
  refine ⟨init, run, fun ys key hys hkey => ?_, fun y ys key hy hkey => ?_⟩
  · rw [hbreak ys fun y hy => by simp [hys y hy, hdash]] at hkey
    obtain ⟨common, back, hcommon, hback, rfl⟩ := mapM_append_eq_ok hkey
    obtain ⟨text, rest, htext, hrest, rfl⟩ := mapM_cons_eq_ok hback
    rw [partOfRun_append_dash] at htext
    cases htext
    exact ⟨common, rest, hcommon, hrest, rfl⟩
  · obtain ⟨more, after, hruns⟩ := hsame y ys (hy.trans hdash.symm)
    rw [hruns] at hkey
    obtain ⟨common, back, hcommon, hback, rfl⟩ := mapM_append_eq_ok hkey
    obtain ⟨text, rest, htext, -, rfl⟩ := mapM_cons_eq_ok hback
    rw [partOfRun_append_dash] at htext
    cases htext
    exact ⟨common, y :: more, rest, hcommon, List.cons_ne_nil _ _, rfl⟩

/-! ## Names that have a key -/

/-- Whatever looks like a digit among the first characters has a value. -/
theorem isDecimalDigit_of_isDigitLike {c : Char} (hascii : c.toNat < 128)
    (h : Text.isDigitLike c = true) : Text.isDecimalDigit c = true := by
  have hnone : Text.nonPositionalDigits.contains c = false := by
    simp only [Text.CodePoints.contains, List.any_eq_false, Bool.and_eq_true, decide_eq_true_eq,
      not_and_or, Nat.not_le]
    have hstart : ∀ range ∈ Text.nonPositionalDigits, 128 ≤ range.1 := by decide
    intro range hrange
    exact .inl (Nat.lt_of_lt_of_le hascii (hstart range hrange))
  simpa [Text.isDigitLike, hnone] using h

theorem exists_ofName_of_ascii {name : String} (hascii : ∀ c ∈ name.toList, c.toNat < 128)
    (hsize : Text.nameSize name ≤ Numeral.digitLimit) : ∃ key, ofName name = .ok key := by
  cases hkey : ofName name with
  | ok key => exact ⟨key, rfl⟩
  | error fault =>
      obtain ⟨piece, -, run, hrun, -, hlike, hdecimal⟩ := hasOddPiece_of_ofName_error hsize hkey
      have hin : ∀ c ∈ run, c ∈ name.toList := by
        intro c hc
        rw [← flatten_runs Text.isDecimalDigit name.toList]
        exact List.mem_flatten.mpr ⟨run, hrun, hc⟩
      have hall : run.all Text.isDecimalDigit = true := by
        rw [List.all_eq_true] at hlike ⊢
        exact fun c hc => isDecimalDigit_of_isDigitLike (hascii c (hin c hc)) (hlike c hc)
      rw [hall] at hdecimal
      cases hdecimal

theorem toNat_lt_of_mem_dotted {numbers : List Nat} {c : Char} (h : c ∈ dotted numbers) :
    c.toNat < 128 := by
  have hdigit : ∀ {n : Nat}, c ∈ Nat.toDigits 10 n → c.toNat < 128 := fun hc =>
    toNat_lt_of_isDigit (Nat.isDigit_of_mem_toDigits (by decide) (by decide) hc)
  fun_induction dotted numbers with
  | case1 => cases h
  | case2 n => exact hdigit h
  | case3 n m rest ih =>
      rcases List.mem_append.mp h with hc | hc
      · exact hdigit hc
      · rcases List.mem_cons.mp hc with rfl | hc
        · decide
        · exact ih hc

end VersionKey

namespace Registry

open VersionKey

/-- Versions of a package: after the dash comes a digit. -/
def IsVersionOf (package name : String) : Prop :=
  ∃ c rest, name.toList = (package ++ "-").toList ++ c :: rest ∧ c.isDigit = true

/-- Names of other packages, whose name goes on after the dash. -/
def IsLongerName (package name : String) : Prop :=
  ∃ c rest, name.toList = (package ++ "-").toList ++ c :: rest ∧ Text.isDecimalDigit c = false

theorem IsVersionOf.not_isLongerName {package name : String} (h : IsVersionOf package name) :
    ¬ IsLongerName package name := by
  rintro ⟨c', rest', htoList', hc'⟩
  obtain ⟨c, rest, htoList, hc⟩ := h
  have hsame := List.append_cancel_left (htoList.symm.trans htoList')
  cases hsame
  rw [isDecimalDigit_of_isDigit hc] at hc'
  cases hc'

theorem toList_dash (package : String) (rest : List Char) :
    (package ++ "-").toList ++ rest = package.toList ++ '-' :: rest := by
  simp

/-- A longer package name stands before every version of the package. -/
theorem not_atLeast_of_isLongerName {package name other : String}
    (hname : (package ++ "-").toList.isPrefixOf name.toList = true)
    (hversion : ¬ IsLongerName package name) (hother : IsLongerName package other) :
    ¬ AtLeast name other := by
  rintro ⟨key, key', hkey, hkey', hge⟩
  obtain ⟨init, run, hdigit, hlonger⟩ := exists_key_of_dash package.toList
  obtain ⟨ys, hys⟩ := List.isPrefixOf_iff_prefix.mp hname
  obtain ⟨c, rest', htoList, hc⟩ := hother
  have hhead : ∀ y ∈ ys.head?, Text.isDecimalDigit y = true := by
    intro y hy
    obtain ⟨more, rfl⟩ := List.head?_eq_some_iff.mp hy
    by_contra hnot
    exact hversion ⟨y, more, hys.symm, by simpa using hnot⟩
  rw [ofName, ← hys, toList_dash] at hkey
  rw [ofName, htoList, toList_dash] at hkey'
  obtain ⟨common, rest, hcommon, -, rfl⟩ := hdigit ys key hhead hkey
  obtain ⟨common', tail, more, hcommon', htail, rfl⟩ := hlonger c rest' key' hc hkey'
  cases hcommon.symm.trans hcommon'
  rw [compareKeys_append, compareKeys, comparePart_dashPart run htail] at hge
  cases hge

/-! ## Versions with numbers -/

def versionName (package : String) (numbers : List Nat) : String :=
  package ++ "-" ++ String.intercalate "." (numbers.map toString)

theorem intercalate_toDigits (numbers : List Nat) :
    ['.'].intercalate (numbers.map (Nat.toDigits 10)) = dotted numbers := by
  fun_induction dotted numbers with
  | case1 => rfl
  | case2 n => simp [List.intercalate]
  | case3 n m rest ih => simpa [List.intercalate] using ih

theorem toList_versionName (package : String) (numbers : List Nat) :
    (versionName package numbers).toList = package.toList ++ '-' :: dotted numbers := by
  have hdigits : numbers.map (fun n => (toString n).toList) = numbers.map (Nat.toDigits 10) :=
    List.map_congr_left fun _ _ => Nat.toList_repr
  have hdotted : (String.intercalate "." (numbers.map toString)).toList = dotted numbers := by
    rw [String.toList_intercalate, List.map_map, ← intercalate_toDigits, ← hdigits]
    rfl
  rw [versionName, String.toList_append, String.toList_append, hdotted]
  simp

theorem toNat_lt_of_mem_versionName {package : String} {numbers : List Nat}
    (hpackage : ∀ c ∈ package.toList, c.toNat < 128) :
    ∀ c ∈ (versionName package numbers).toList, c.toNat < 128 := by
  intro c hc
  rw [toList_versionName] at hc
  rcases List.mem_append.mp hc with hc | hc
  · exact hpackage c hc
  · rcases List.mem_cons.mp hc with rfl | hc
    · decide
    · exact toNat_lt_of_mem_dotted hc

theorem le_of_atLeast_versionName {package : String} {numbers numbers' : List Nat}
    (h : AtLeast (versionName package numbers) (versionName package numbers')) :
    numbers' = numbers ∨ List.Lex (· < ·) numbers' numbers := by
  obtain ⟨key, key', hkey, hkey', hge⟩ := h
  obtain ⟨init, run, hdigit, -⟩ := exists_key_of_dash package.toList
  rw [ofName, toList_versionName] at hkey hkey'
  obtain ⟨common, rest, hcommon, hrest, rfl⟩ :=
    hdigit _ key (dotted_head_isDecimalDigit numbers) hkey
  obtain ⟨common', rest', hcommon', hrest', rfl⟩ :=
    hdigit _ key' (dotted_head_isDecimalDigit numbers') hkey'
  cases hcommon.symm.trans hcommon'
  have htext := compareKeys_append
    (common ++ [dashPart run []]) rest rest'
  rw [List.append_assoc, List.append_assoc, List.singleton_append, List.singleton_append] at htext
  rw [htext, eq_numberParts_of_mapM hrest, eq_numberParts_of_mapM hrest'] at hge
  exact (isGE_compareKeys_numberParts numbers numbers').mp hge

end Registry

end AsmNavigator
