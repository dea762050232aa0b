import AsmNavigator.Proofs.Source.DefinedName

/-! # The word under the cursor is the token there

A token is a stretch of a line that begins with a letter or an underscore, goes on as long
as there are identifier characters, and has at most digits in front of it in the same run.
The words of a line are its tokens, no two of them touch the same column, and so the word
at a column is the one token that touches it. A qualified call names a token that begins
where one of its parts does by that very part.
-/

namespace AsmNavigator.Source

open Text

/-! ## Spans -/

/-- The places from `start` up to `stop` hold a token. -/
structure IsSpan (cs : List Char) (start stop : Nat) : Prop where
  nonempty : start < stop
  starts : ∃ c, cs[start]? = some c ∧ isIdentStart c = true
  continues : ∀ i, start ≤ i → i < stop → ∃ c, cs[i]? = some c ∧ isIdentChar c = true
  stops : ∀ c, cs[stop]? = some c → isIdentChar c = false
  /-- Identifier characters right before it are digits. -/
  before : ∀ front run, cs.take start = front ++ run → (∀ c ∈ run, isIdentChar c = true) →
    ∀ c ∈ run, c.isDigit = true

def between (cs : List Char) (start stop : Nat) : String :=
  String.ofList ((cs.take stop).drop start)

theorem isIdentStart_eq_false_of_isDigit {c : Char} (h : c.isDigit = true) :
    isIdentStart c = false := by
  simp only [Char.isDigit, Bool.and_eq_true, decide_eq_true_eq] at h
  have hnine : c.toNat ≤ 57 := h.2
  rw [Bool.eq_false_iff]
  intro hstart
  have halpha : c.isAlpha = (decide (c.val ≥ 'A'.val ∧ c.val ≤ 'Z'.val) ||
      decide (c.val ≥ 'a'.val) && decide (c.val ≤ 'z'.val)) := rfl
  simp only [isIdentStart, halpha, Bool.or_eq_true, Bool.and_eq_true, decide_eq_true_eq,
    beq_iff_eq] at hstart
  rcases hstart with (⟨hupper, -⟩ | ⟨hlower, -⟩) | rfl
  · have : 65 ≤ c.toNat := hupper
    omega
  · have : 97 ≤ c.toNat := hlower
    omega
  · revert hnine
    decide

theorem isDigit_of_isIdentChar {c : Char} (h : isIdentChar c = true)
    (hstart : isIdentStart c = false) : c.isDigit = true := by
  simp only [isIdentChar, Char.isAlphanum, isIdentStart, Bool.or_eq_true, Bool.or_eq_false_iff]
    at h hstart
  simpa [hstart.1, hstart.2] using h

theorem isGap_iff {cs : List Char} : IsGap cs ↔
    ∀ front run, cs = front ++ run → (∀ c ∈ run, isIdentChar c = true) →
      ∀ c ∈ run, c.isDigit = true := by
  constructor
  · rintro hgap front run rfl hrun c hc
    refine isDigit_of_isIdentChar (hrun c hc) (hgap c ?_)
    rw [List.reverse_append, List.takeWhile_append_of_pos (by simpa using hrun)]
    exact List.mem_append_left _ (List.mem_reverse.mpr hc)
  · intro h c hc
    have hsplit : cs = (cs.reverse.dropWhile isIdentChar).reverse ++
        (cs.reverse.takeWhile isIdentChar).reverse := by
      rw [← List.reverse_append, List.takeWhile_append_dropWhile, List.reverse_reverse]
    refine isIdentStart_eq_false_of_isDigit (h _ _ hsplit ?_ c (List.mem_reverse.mpr hc))
    intro d hd
    exact List.mem_takeWhile_imp (List.mem_reverse.mp hd)

/-! ## Spans and tokens -/

namespace IsSpan

variable {cs : List Char} {start stop start' stop' : Nat}

theorem stop_le (h : IsSpan cs start stop) : stop ≤ cs.length := by
  by_contra hlong
  obtain ⟨c, hc, -⟩ := h.continues (max start cs.length) (by omega) (by have := h.nonempty; omega)
  rw [List.getElem?_eq_none (by omega)] at hc
  cases hc

theorem isIdentChar_of_getElem? (h : IsSpan cs start stop) {i : Nat} {c : Char}
    (hc : cs[i]? = some c) (hlow : start ≤ i) (hhigh : i < stop) : isIdentChar c = true := by
  obtain ⟨d, hd, hchar⟩ := h.continues i hlow hhigh
  rw [hc] at hd
  cases hd
  exact hchar

/-- A span begins with the identifier that can be taken at its start. -/
theorem isIdent (h : IsSpan cs start stop) : IsIdent (between cs start stop).toList := by
  obtain ⟨c, hc, hstart⟩ := h.starts
  have hstop := h.stop_le
  have hlength : start < (cs.take stop).length := by
    rw [List.length_take]
    have := h.nonempty
    omega
  have hhead : (cs.take stop)[start] = c := by
    rw [List.getElem_take]
    exact (List.getElem?_eq_some_iff.mp hc).2
  refine ⟨c, (cs.take stop).drop (start + 1), ?_, hstart, ?_⟩
  · rw [between, String.toList_ofList, List.drop_eq_getElem_cons hlength, hhead]
  · intro d hd
    obtain ⟨i, hi⟩ := List.mem_iff_getElem?.mp hd
    rw [List.getElem?_drop, List.getElem?_take] at hi
    split at hi
    · exact h.isIdentChar_of_getElem? hi (by omega) (by omega)
    · cases hi

theorem isToken (h : IsSpan cs start stop) : IsToken cs ⟨between cs start stop, start⟩ := by
  have hstop := h.stop_le
  refine ⟨⟨cs.drop stop, ?_⟩, isGap_iff.mpr h.before⟩
  have hsplit : cs.drop start = (between cs start stop).toList ++ cs.drop stop := by
    rw [between, String.toList_ofList, ← List.drop_append_of_le_length, List.take_append_drop]
    rw [List.length_take]
    have := h.nonempty
    omega
  rw [hsplit]
  refine takeIdent?_append h.isIdent fun d hd => h.stops d ?_
  rwa [List.head?_drop] at hd

theorem length_between (h : IsSpan cs start stop) :
    (between cs start stop).length = stop - start := by
  rw [between, String.length_ofList, List.length_drop, List.length_take, Nat.min_eq_left h.stop_le]

end IsSpan

theorem IsToken.isSpan {cs : List Char} {w : Word} (h : IsToken cs w) :
    IsSpan cs w.start w.stop ∧ w.text = between cs w.start w.stop := by
  obtain ⟨rest, htaken⟩ := h.taken
  obtain ⟨first, tail, htext, hfirst, -⟩ := h.isIdent
  have hdrop : cs.drop w.start = w.text.toList ++ rest := eq_append_of_takeIdent? htaken
  have hlength : w.text.toList.length = w.text.length := String.length_toList
  have hget : ∀ i, cs[w.start + i]? = (w.text.toList ++ rest)[i]? := by
    intro i
    rw [← hdrop, List.getElem?_drop]
  have hnonempty : 0 < w.text.toList.length := by
    rw [htext]
    exact Nat.succ_pos _
  refine ⟨⟨?_, ⟨first, ?_, hfirst⟩, ?_, ?_, isGap_iff.mp h.before⟩, ?_⟩
  · unfold Word.stop
    omega
  · have hhead := hget 0
    rw [htext] at hhead
    exact hhead
  · intro i hlow hhigh
    obtain ⟨offset, rfl⟩ := Nat.exists_eq_add_of_le hlow
    have hoffset : offset < w.text.toList.length := by
      unfold Word.stop at hhigh
      omega
    rw [hget, List.getElem?_append_left hoffset, List.getElem?_eq_getElem hoffset]
    exact ⟨_, rfl, h.isIdent.forall_mem (List.getElem_mem hoffset)⟩
  · intro c hc
    rw [Word.stop, hget, List.getElem?_append_right (by omega), hlength, Nat.sub_self,
      ← List.head?_eq_getElem?] at hc
    exact stops_of_takeRun? htaken c hc
  · have hbefore : (cs.take w.start).length = w.start := by
      have hrest := congrArg List.length hdrop
      rw [List.length_drop, List.length_append] at hrest
      rw [List.length_take]
      omega
    rw [between, h.take_stop, List.drop_left' hbefore, String.ofList_toList]

/-! ## One token at most -/

namespace IsSpan

variable {cs : List Char} {start stop start' stop' : Nat}

/-- A token does not begin inside another, nor right behind it. -/
theorem stop_lt_start (h : IsSpan cs start stop) (h' : IsSpan cs start' stop')
    (hlt : start < start') : stop < start' := by
  by_contra hinside
  obtain ⟨c, hc, hstart⟩ := h.starts
  -- Otherwise the first one would have its letter right before the second.
  have hsplit : cs.take start' = cs.take start ++ (cs.take start').drop start := by
    conv_lhs => rw [← List.take_append_drop start (cs.take start')]
    rw [List.take_take, Nat.min_eq_left hlt.le]
  have hrun : ∀ d ∈ (cs.take start').drop start, isIdentChar d = true := by
    intro d hd
    obtain ⟨i, hi⟩ := List.mem_iff_getElem?.mp hd
    rw [List.getElem?_drop, List.getElem?_take] at hi
    split at hi
    · exact h.isIdentChar_of_getElem? hi (by omega) (by omega)
    · cases hi
  have hmem : c ∈ (cs.take start').drop start := by
    refine List.mem_of_getElem? (i := 0) ?_
    rw [List.getElem?_drop, Nat.add_zero, List.getElem?_take_of_lt hlt, hc]
  have hdigit := h'.before _ _ hsplit hrun c hmem
  rw [isIdentStart_eq_false_of_isDigit hdigit] at hstart
  cases hstart

theorem stop_le_stop (h : IsSpan cs start stop) (h' : IsSpan cs start stop') :
    stop' ≤ stop := by
  by_contra hlt
  obtain ⟨c, hc, hchar⟩ := h'.continues stop h.nonempty.le (by omega)
  rw [h.stops c hc] at hchar
  cases hchar

end IsSpan

/-- A column that is inside a token or right behind it. -/
structure Touches (line : String) (column : Int) (start stop : Nat) : Prop where
  isSpan : IsSpan line.toList start stop
  low : (start : Int) ≤ column
  high : column ≤ stop

theorem Touches.unique {line : String} {column : Int} {start stop start' stop' : Nat}
    (h : Touches line column start stop) (h' : Touches line column start' stop') :
    start = start' ∧ stop = stop' := by
  have hlow := h.low
  have hhigh := h.high
  have hlow' := h'.low
  have hhigh' := h'.high
  rcases Nat.lt_trichotomy start start' with hlt | rfl | hgt
  · have hbehind := h.isSpan.stop_lt_start h'.isSpan hlt
    omega
  · exact ⟨rfl, Nat.le_antisymm (h'.isSpan.stop_le_stop h.isSpan) (h.isSpan.stop_le_stop h'.isSpan)⟩
  · have hbehind := h'.isSpan.stop_lt_start h.isSpan hgt
    omega

/-! ## All tokens are words -/

theorem wordsFrom_append_of_not_start {digits : List Char}
    (h : ∀ c ∈ digits, isIdentStart c = false) (position : Nat) (rest : List Char) :
    wordsFrom position none (digits ++ rest) =
      wordsFrom (position + digits.length) none rest := by
  induction digits generalizing position with
  | nil => rfl
  | cons c digits ih =>
      obtain ⟨hc, hdigits⟩ := List.forall_mem_cons.mp h
      rw [List.cons_append, wordsFrom, hc, List.length_cons]
      simp only [Bool.false_eq_true, if_false]
      rw [ih hdigits, Nat.add_assoc, Nat.add_comm 1]

/-- Behind a gap the scanner begins anew. -/
theorem exists_wordsFrom_append_of_isGap {before : List Char} (h : IsGap before)
    (rest : List Char) :
    ∃ earlier, wordsFrom 0 none (before ++ rest) =
      earlier ++ wordsFrom before.length none rest := by
  obtain ⟨front, digits, hbefore, hdigits, hfront⟩ : ∃ front digits, before = front ++ digits ∧
      (∀ c ∈ digits, isIdentStart c = false) ∧
      ∀ c ∈ front.getLast?, isIdentChar c = false := by
    refine ⟨(before.reverse.dropWhile isIdentChar).reverse,
      (before.reverse.takeWhile isIdentChar).reverse, ?_, ?_, ?_⟩
    · rw [← List.reverse_append, List.takeWhile_append_dropWhile, List.reverse_reverse]
    · exact fun c hc => h c (List.mem_reverse.mp hc)
    · intro c hc
      rw [List.getLast?_reverse] at hc
      have hstop := List.head?_dropWhile_not isIdentChar before.reverse
      rw [Option.mem_def.mp hc] at hstop
      exact hstop
  subst hbefore
  rcases List.eq_nil_or_concat front with rfl | ⟨done, separator, rfl⟩
  · refine ⟨[], ?_⟩
    rw [List.nil_append, List.nil_append, wordsFrom_append_of_not_start hdigits, Nat.zero_add]
  · have hseparator : isIdentChar separator = false := hfront separator (by simp)
    refine ⟨wordsFrom 0 none done, ?_⟩
    rw [List.concat_eq_append, List.append_assoc, List.append_assoc, List.singleton_append,
      wordsFrom_append_cons hseparator, wordsFrom_append_of_not_start hdigits]
    simp only [List.length_append, List.length_singleton, Nat.zero_add]

theorem mem_words_of_isToken {line : String} {w : Word} (h : IsToken line.toList w) :
    w ∈ words line := by
  obtain ⟨rest, htaken⟩ := h.taken
  have hdrop := eq_append_of_takeIdent? htaken
  have hstart : (line.toList.take w.start).length = w.start := by
    have hbound := h.stop_le
    unfold Word.stop at hbound
    rw [List.length_take]
    omega
  obtain ⟨earlier, hwords⟩ := exists_wordsFrom_append_of_isGap h.before (line.toList.drop w.start)
  obtain ⟨more, hmore⟩ := wordsFrom_name h.isIdent (stops_of_takeRun? htaken) w.start
  rw [List.take_append_drop, hstart, hdrop, hmore, String.ofList_toList] at hwords
  rw [words, hwords]
  exact List.mem_append_right _ List.mem_cons_self

theorem touches_of_wordAt {line : String} {column : Int} {w : Word}
    (h : wordAt line column = some w) :
    Touches line column w.start w.stop ∧ w.text = between line.toList w.start w.stop := by
  obtain ⟨hspan, htext⟩ := (isToken_of_wordAt h).isSpan
  rw [wordAt_eq_find?] at h
  have hcolumn := List.find?_some h
  simp only [Bool.and_eq_true, decide_eq_true_eq] at hcolumn
  exact ⟨⟨hspan, hcolumn.1, hcolumn.2⟩, htext⟩

theorem wordAt_of_touches {line : String} {column : Int} {start stop : Nat}
    (h : Touches line column start stop) :
    wordAt line column = some ⟨between line.toList start stop, start⟩ := by
  have hmem := mem_words_of_isToken h.isSpan.isToken
  have hstop : Word.stop ⟨between line.toList start stop, start⟩ = stop := by
    have hlength := h.isSpan.length_between
    have hnonempty := h.isSpan.nonempty
    simp only [Word.stop]
    omega
  cases hword : wordAt line column with
  | none =>
      rw [wordAt_eq_find?] at hword
      have hnone := List.find?_eq_none.mp hword _ hmem
      simp only [hstop, Bool.and_eq_true, decide_eq_true_eq, not_and] at hnone
      exact absurd h.high (hnone h.low)
  | some w =>
      obtain ⟨htouches, htext⟩ := touches_of_wordAt hword
      obtain ⟨hstart, hend⟩ := htouches.unique h
      rw [hstart, hend] at htext
      cases w
      simp only at htext hstart
      rw [htext, hstart]

/-! ## Calls -/

/-- The module of a qualified call is taken where the call says that it starts. -/
theorem takeIdent?_module_of_qualifiedCallAt? {position length : Nat} {cs : List Char}
    {call : QualifiedCall} (h : qualifiedCallAt? position cs = some (call, length)) :
    call.moduleStart = position + 5 ∧
      ∃ rest, takeIdent? (cs.drop 5) = some (call.moduleName.toList, rest) := by
  simp only [qualifiedCallAt?, Option.bind_eq_bind, Option.bind_eq_some_iff, Option.some.injEq,
    Prod.mk.injEq] at h
  obtain ⟨afterVerb, hverb, ⟨moduleName, afterModule⟩, hmodule, -, -, -, -, rfl, -⟩ := h
  refine ⟨rfl, afterModule, ?_⟩
  have hdrop : cs.drop 5 = afterVerb := by
    rcases Option.or_eq_some_iff.mp hverb with hexec | ⟨-, hcall⟩
    · rw [dropPrefix?_eq_some_iff.mp hexec]
      rfl
    · rw [dropPrefix?_eq_some_iff.mp hcall]
      rfl
  rw [hdrop, hmodule, String.toList_ofList]

theorem moduleName_eq_of_mem_qualifiedCalls {line : String} {w : Word} {call : QualifiedCall}
    (hw : IsToken line.toList w) (h : call ∈ qualifiedCalls line)
    (hstart : w.start = call.moduleStart) : w.text = call.moduleName := by
  obtain ⟨offset, length, hcall⟩ := mem_findAllFrom h
  obtain ⟨hposition, rest, hmodule⟩ := takeIdent?_module_of_qualifiedCallAt? hcall
  rw [Nat.zero_add] at hposition
  rw [List.drop_drop, ← hposition, ← hstart] at hmodule
  exact String.toList_inj.mp (hw.eq_of_takeIdent? hmodule)

/-- The word at a column is the token that touches it: there is one at most, and if there is
none, there is no word. A qualified call that is found for a word has the word as the part
that begins where the word does. -/
theorem wordAt_eq_touching_token (line : String) (column : Int) :
    (∀ start stop start' stop', Touches line column start stop →
        Touches line column start' stop' → start = start' ∧ stop = stop') ∧
      (∀ start stop, Touches line column start stop →
        wordAt line column = some ⟨between line.toList start stop, start⟩ ∧
          (⟨between line.toList start stop, start⟩ : Word).stop = stop) ∧
      ((∀ start stop, ¬ Touches line column start stop) → wordAt line column = none) ∧
      ∀ w call, wordAt line column = some w → callOfWord? line w = some call →
        (w.start = call.moduleStart ∨ w.start = call.procedureStart) ∧
          (w.start = call.moduleStart → w.text = call.moduleName) ∧
          (w.start = call.procedureStart → w.text = call.procedure) := by
  refine ⟨fun _ _ _ _ h h' => h.unique h', fun start stop h => ?_, fun hnone => ?_, ?_⟩
  · have hword := wordAt_of_touches h
    exact ⟨hword, ((touches_of_wordAt hword).1.unique h).2⟩
  · rw [Option.eq_none_iff_forall_ne_some]
    intro w hword
    exact hnone _ _ (touches_of_wordAt hword).1
  · intro w call hword hcall
    have htoken := isToken_of_wordAt hword
    have hmem : call ∈ qualifiedCalls line := List.mem_of_find?_eq_some hcall
    have hbegins := List.find?_some hcall
    simp only [Bool.or_eq_true, decide_eq_true_eq] at hbegins
    refine ⟨hbegins, moduleName_eq_of_mem_qualifiedCalls htoken hmem, fun hprocedure => ?_⟩
    have horder := moduleStart_lt_of_mem_qualifiedCalls hmem
    exact (procedure_eq_of_callOfWord? htoken hcall (by omega)).symm

-- Digits in front of a letter are not part of its token, and none touches them.
example : wordAt "12ab+cd" 4 = some ⟨"ab", 2⟩ := by decide
example : wordAt "12ab+cd" 1 = none := by decide

end AsmNavigator.Source
