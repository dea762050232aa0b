import AsmNavigator.Proofs.Source.Recognisers

/-! # Words are tokens

The words of a line are its identifiers of greatest length: no identifier character
follows one, and none begins inside another. So two ways of cutting a name out of a line
that agree on where it starts, or on where it ends, cut out the same name. This is why
the name that a call pattern captures is the word under the cursor.
-/

namespace AsmNavigator.Source

open Text

/-- No identifier reaches the end of a text: the identifier characters there, if any,
are digits that follow no letter. -/
def IsGap (cs : List Char) : Prop :=
  ∀ c ∈ cs.reverse.takeWhile isIdentChar, isIdentStart c = false

/-- A word of greatest length. -/
structure IsToken (cs : List Char) (w : Word) : Prop where
  taken : ∃ rest, takeIdent? (cs.drop w.start) = some (w.text.toList, rest)
  before : IsGap (cs.take w.start)

theorem isGap_concat_of_not_start {cs : List Char} {c : Char} (hcs : IsGap cs)
    (hc : isIdentStart c = false) : IsGap (cs ++ [c]) := by
  intro d hd
  rw [List.reverse_concat, List.takeWhile_cons] at hd
  split at hd
  · rcases List.mem_cons.mp hd with rfl | hd
    · exact hc
    · exact hcs d hd
  · cases hd

theorem isGap_concat_of_not_char {cs : List Char} {c : Char} (hc : isIdentChar c = false) :
    IsGap (cs ++ [c]) := by
  intro d hd
  simp [hc] at hd

theorem not_isGap_append (before : List Char) {name : List Char} (hname : IsIdent name) :
    ¬ IsGap (before ++ name) := by
  intro hgap
  obtain ⟨first, tail, heq, hstart, -⟩ := id hname
  have hrun : ∀ d ∈ name.reverse, isIdentChar d = true :=
    fun d hd => hname.forall_mem (List.mem_reverse.mp hd)
  have hfirst : isIdentStart first = false := by
    refine hgap first ?_
    rw [List.reverse_append, List.takeWhile_append_of_pos hrun]
    exact List.mem_append_left _ (by simp [heq])
  rw [hfirst] at hstart
  cases hstart

theorem isToken_append {before name rest : List Char} (hbefore : IsGap before)
    (hname : IsIdent name) (hrest : ∀ d ∈ rest.head?, isIdentChar d = false) :
    IsToken (before ++ name ++ rest) ⟨String.ofList name, before.length⟩ := by
  refine ⟨⟨rest, ?_⟩, ?_⟩
  · rw [String.toList_ofList, List.append_assoc, List.drop_left]
    exact takeIdent?_append hname hrest
  · rw [List.append_assoc, List.take_left]
    exact hbefore

/-! ## The scanner -/

/-- What the scanner of words knows of the characters that it has read. -/
inductive HasRead : List Char → Option (Nat × List Char) → Prop
  | gap {done : List Char} (h : IsGap done) : HasRead done none
  | word {before read : List Char} (hbefore : IsGap before) (hread : IsIdent read.reverse) :
      HasRead (before ++ read.reverse) (some (before.length, read))

theorem isToken_of_mem_wordsFrom {done rest : List Char} {state : Option (Nat × List Char)}
    (hstate : HasRead done state) {w : Word} (hw : w ∈ wordsFrom done.length state rest) :
    IsToken (done ++ rest) w := by
  induction rest generalizing done state with
  | nil =>
      cases hstate with
      | gap h => simp [wordsFrom] at hw
      | word hbefore hread =>
          rw [wordsFrom, List.mem_singleton] at hw
          subst hw
          exact isToken_append hbefore hread (by simp)
  | cons c rest ih =>
      have hnext : ∀ {state}, HasRead (done ++ [c]) state →
          w ∈ wordsFrom (done.length + 1) state rest → IsToken (done ++ c :: rest) w := by
        intro state hread hmem
        rw [List.append_cons]
        exact ih hread (by simpa using hmem)
      cases hstate with
      | gap h =>
          rw [wordsFrom] at hw
          split at hw
          · next hc =>
              have hfirst : IsIdent [c].reverse := ⟨c, [], rfl, hc, by simp⟩
              exact hnext (.word h hfirst) hw
          · next hc => exact hnext (.gap (isGap_concat_of_not_start h (by simpa using hc))) hw
      | @word before read hbefore hread =>
          rw [wordsFrom] at hw
          split at hw
          · next hc =>
              obtain ⟨first, tail, heq, hfirst, htail⟩ := hread
              have hlonger : IsIdent (c :: read).reverse := by
                refine ⟨first, tail ++ [c], ?_, hfirst, ?_⟩
                · rw [List.reverse_cons, heq, List.cons_append]
                · intro d hd
                  rcases List.mem_append.mp hd with hd | hd
                  · exact htail d hd
                  · rwa [List.mem_singleton.mp hd]
              have hread' := HasRead.word hbefore hlonger
              rw [List.reverse_cons, ← List.append_assoc] at hread'
              exact hnext hread' hw
          · next hc =>
              have hc : isIdentChar c = false := by simpa using hc
              rcases List.mem_cons.mp hw with rfl | hw
              · exact isToken_append hbefore hread (by simp [hc])
              · exact hnext (.gap (isGap_concat_of_not_char hc)) hw

theorem isToken_of_mem_words {line : String} {w : Word} (hw : w ∈ words line) :
    IsToken line.toList w := by
  have hstart : HasRead [] none := .gap (by simp [IsGap])
  exact isToken_of_mem_wordsFrom hstart hw

/-! ## The word at a column -/

theorem le_start_of_mem_wordsFrom {position start : Nat} {state : Option (Nat × List Char)}
    {cs : List Char} (hposition : start ≤ position) (hstate : ∀ run ∈ state, start ≤ run.1)
    {w : Word} (hw : w ∈ wordsFrom position state cs) : start ≤ w.start := by
  induction cs generalizing position state with
  | nil =>
      cases state with
      | none => simp [wordsFrom] at hw
      | some run =>
          rw [wordsFrom, List.mem_singleton] at hw
          subst hw
          exact hstate run rfl
  | cons c rest ih =>
      have hnext : start ≤ position + 1 := Nat.le_succ_of_le hposition
      cases state with
      | none =>
          rw [wordsFrom] at hw
          split at hw
          · exact ih hnext (by simpa using hposition) hw
          · exact ih hnext (by simp) hw
      | some run =>
          have hrun := hstate run rfl
          rw [wordsFrom] at hw
          split at hw
          · exact ih hnext (by simpa using hrun) hw
          · rcases List.mem_cons.mp hw with rfl | hw
            · exact hrun
            · exact ih hnext (by simp) hw

theorem pairwise_start_wordsFrom {position : Nat} {state : Option (Nat × List Char)}
    (hstate : ∀ run ∈ state, run.1 ≤ position) (cs : List Char) :
    (wordsFrom position state cs).Pairwise fun w v => w.start ≤ v.start := by
  induction cs generalizing position state with
  | nil => cases state <;> simp [wordsFrom]
  | cons c rest ih =>
      cases state with
      | none =>
          rw [wordsFrom]
          split
          · exact ih (by simp)
          · exact ih (by simp)
      | some run =>
          have hrun : run.1 ≤ position + 1 := Nat.le_succ_of_le (hstate run rfl)
          rw [wordsFrom]
          split
          · exact ih (by simpa using hrun)
          · exact List.pairwise_cons.mpr
              ⟨fun w hw => le_start_of_mem_wordsFrom hrun (by simp) hw, ih (by simp)⟩

/-- Behind the column there is nothing to be found, so ending the search there is safe. -/
theorem firstTouching?_eq_find? {ws : List Word} (h : ws.Pairwise fun w v => w.start ≤ v.start)
    (column : Int) : firstTouching? column ws =
      ws.find? fun w => (w.start : Int) ≤ column && column ≤ w.stop := by
  induction ws with
  | nil => rfl
  | cons w rest ih =>
      obtain ⟨hrest, hsorted⟩ := List.pairwise_cons.mp h
      rw [firstTouching?, List.find?_cons]
      split
      · next htouches => simp only [htouches]
      · next htouches =>
          simp only [htouches]
          split
          · next hbehind =>
              refine (List.find?_eq_none.mpr fun v hv hat => ?_).symm
              have hle := hrest v hv
              simp only [Bool.and_eq_true, decide_eq_true_eq] at hat
              omega
          · exact ih hsorted

theorem wordAt_eq_find? (line : String) (column : Int) :
    wordAt line column =
      (words line).find? fun w => (w.start : Int) ≤ column && column ≤ w.stop :=
  firstTouching?_eq_find? (pairwise_start_wordsFrom (by simp) _) column

theorem isToken_of_wordAt {line : String} {column : Int} {w : Word}
    (hw : wordAt line column = some w) : IsToken line.toList w := by
  rw [wordAt_eq_find?] at hw
  exact isToken_of_mem_words (List.mem_of_find?_eq_some hw)

/-! ## Names that start or end with a word -/

theorem IsToken.isIdent {cs : List Char} {w : Word} (h : IsToken cs w) :
    IsIdent w.text.toList := by
  obtain ⟨rest, htaken⟩ := h.taken
  exact isIdent_of_takeIdent? htaken

/-- Up to its end the text is what stands before the token, and the token. -/
theorem IsToken.take_stop {cs : List Char} {w : Word} (h : IsToken cs w) :
    cs.take w.stop = cs.take w.start ++ w.text.toList := by
  obtain ⟨rest, htaken⟩ := h.taken
  rw [Word.stop, List.take_add, eq_append_of_takeIdent? htaken, ← String.length_toList,
    List.take_left]

/-- An identifier that is taken where a token starts is the token. -/
theorem IsToken.eq_of_takeIdent? {cs name rest : List Char} {w : Word} (h : IsToken cs w)
    (hname : takeIdent? (cs.drop w.start) = some (name, rest)) : w.text.toList = name := by
  obtain ⟨rest', htaken⟩ := h.taken
  rw [htaken] at hname
  cases hname
  rfl

/-- An identifier that ends where a token does, and follows something else than an
identifier character, is the token. -/
theorem IsToken.eq_of_take_stop {cs before name : List Char} {separator : Char} {w : Word}
    (h : IsToken cs w) (hstop : cs.take w.stop = before ++ separator :: name)
    (hseparator : isIdentChar separator = false) (hname : IsIdent name) :
    w.text.toList = name := by
  rw [h.take_stop, List.append_cons] at hstop
  -- Of the two names that end the same text one ends the other.
  rcases List.append_eq_append_iff.mp hstop with ⟨extra, hbefore, htext⟩ | ⟨extra, hbefore, htext⟩
  · rcases List.eq_nil_or_concat extra with rfl | ⟨extra, last, rfl⟩
    · simpa using htext
    · -- The token would hold the separator.
      rw [List.concat_eq_append, ← List.append_assoc] at hbefore
      have hlast : separator = last := List.singleton_inj.mp (List.append_inj' hbefore rfl).2
      subst hlast
      have hmem : separator ∈ w.text.toList := by simp [htext]
      rw [h.isIdent.forall_mem hmem] at hseparator
      cases hseparator
  · cases extra with
    | nil => simpa using htext.symm
    | cons first extra =>
        -- The name would begin in the gap before the token.
        obtain ⟨c, tail, hc, hstart, htail⟩ := hname
        rw [htext, List.cons_append] at hc
        obtain ⟨rfl, hrest⟩ := List.cons.inj hc
        have hbegun : IsIdent (first :: extra) := by
          refine ⟨first, extra, rfl, hstart, fun d hd => htail d ?_⟩
          rw [← hrest]
          exact List.mem_append_left _ hd
        have hgap := h.before
        rw [hbefore] at hgap
        exact absurd hgap (not_isGap_append _ hbegun)

/-- A token that lies inside an identifier is the whole identifier. -/
theorem IsToken.eq_of_inside {before name rest : List Char} {separator : Char} {w : Word}
    (h : IsToken (before ++ separator :: (name ++ rest)) w) (hname : IsIdent name)
    (hrest : ∀ d ∈ rest.head?, isIdentChar d = false) (hlow : before.length + 1 ≤ w.start)
    (hhigh : w.start ≤ before.length + name.length) : w.text.toList = name := by
  have hcut : before ++ separator :: (name ++ rest) = (before ++ [separator]) ++ (name ++ rest) :=
    List.append_cons before separator _
  have hlength : (before ++ [separator]).length = before.length + 1 := by simp
  obtain ⟨offset, hstart⟩ := Nat.exists_eq_add_of_le hlow
  cases offset with
  | zero =>
      have htaken : takeIdent? ((before ++ separator :: (name ++ rest)).drop w.start) =
          some (name, rest) := by
        rw [hcut, hstart, Nat.add_zero, List.drop_left' hlength]
        exact takeIdent?_append hname hrest
      exact h.eq_of_takeIdent? htaken
  | succ offset =>
      -- The token would begin in the identifier and after its first character.
      obtain ⟨first, tail, rfl, hfirst, htail⟩ := hname
      have htake : (before ++ separator :: (first :: tail ++ rest)).take w.start =
          (before ++ [separator]) ++ first :: tail.take offset := by
        rw [hcut, hstart, ← hlength, List.take_length_add_append, List.cons_append,
          List.take_succ_cons, List.take_append_of_le_length]
        rw [List.length_cons] at hhigh
        omega
      have hbegun : IsIdent (first :: tail.take offset) :=
        ⟨first, tail.take offset, rfl, hfirst, fun d hd => htail d (List.mem_of_mem_take hd)⟩
      have hgap := h.before
      rw [htake] at hgap
      exact absurd hgap (not_isGap_append _ hbegun)

/-! ## Calls -/

/-- The procedure of a qualified call is taken where the call says that it starts. -/
theorem takeIdent?_of_qualifiedCallAt? {position length : Nat} {cs : List Char}
    {call : QualifiedCall} (h : qualifiedCallAt? position cs = some (call, length)) :
    call.procedureStart = position + (7 + call.moduleName.length) ∧
      ∃ rest, takeIdent? (cs.drop (7 + call.moduleName.length)) =
        some (call.procedure.toList, rest) := by
  simp only [qualifiedCallAt?, Option.bind_eq_bind, Option.bind_eq_some_iff, Option.some.injEq,
    Prod.mk.injEq] at h
  obtain ⟨afterVerb, hverb, ⟨moduleName, afterModule⟩, hmodule, afterColons, hcolons,
    ⟨procedure, afterProcedure⟩, hprocedure, rfl, -⟩ := h
  have hcs : ∃ verb : List Char, verb.length = 5 ∧ cs = verb ++ afterVerb := by
    rcases Option.or_eq_some_iff.mp hverb with hexec | ⟨-, hcall⟩
    · exact ⟨_, rfl, dropPrefix?_eq_some_iff.mp hexec⟩
    · exact ⟨_, rfl, dropPrefix?_eq_some_iff.mp hcall⟩
  obtain ⟨verb, hlength, rfl⟩ := hcs
  have hcolons : afterModule = [':', ':'] ++ afterColons := dropPrefix?_eq_some_iff.mp hcolons
  rw [eq_append_of_takeIdent? hmodule, hcolons]
  simp only [String.length_ofList, String.toList_ofList]
  refine ⟨by omega, afterProcedure, ?_⟩
  have hdrop : (verb ++ (moduleName ++ ([':', ':'] ++ afterColons))).drop
      (7 + moduleName.length) = afterColons := by
    rw [← List.append_assoc, ← List.append_assoc]
    apply List.drop_left'
    simp only [List.length_append, List.length_cons, List.length_nil]
    omega
  rw [hdrop, hprocedure]

/-- What a qualified call says about its place is so in the line. -/
theorem exists_text_of_mem_qualifiedCalls {line : String} {call : QualifiedCall}
    (h : call ∈ qualifiedCalls line) :
    ∃ before verb moduleName after, (verb = "exec.".toList ∨ verb = "call.".toList) ∧
      line.toList = before ++ (verb ++ (moduleName ++ ("::".toList ++ after))) ∧
      call.moduleStart = before.length + verb.length ∧
      call.procedureStart = before.length + verb.length + moduleName.length + 2 := by
  obtain ⟨offset, length, hcall⟩ := mem_findAllFrom h
  simp only [qualifiedCallAt?, Option.bind_eq_bind, Option.bind_eq_some_iff, Option.some.injEq,
    Prod.mk.injEq] at hcall
  obtain ⟨afterVerb, hverb, ⟨moduleName, afterModule⟩, hmodule, after, hcolons, -, -, rfl, -⟩ :=
    hcall
  have hcolons : afterModule = "::".toList ++ after := dropPrefix?_eq_some_iff.mp hcolons
  have hrest : afterVerb = moduleName ++ ("::".toList ++ after) := by
    rw [eq_append_of_takeIdent? hmodule, hcolons]
  have hdrop : ∃ verb : List Char, (verb = "exec.".toList ∨ verb = "call.".toList) ∧
      line.toList.drop offset = verb ++ afterVerb := by
    rcases Option.or_eq_some_iff.mp hverb with hexec | ⟨-, hcall⟩
    · exact ⟨_, .inl rfl, dropPrefix?_eq_some_iff.mp hexec⟩
    · exact ⟨_, .inr rfl, dropPrefix?_eq_some_iff.mp hcall⟩
  obtain ⟨verb, hverb, hdrop⟩ := hdrop
  have hlength : verb.length = 5 := by
    rcases hverb with rfl | rfl <;> rfl
  have hoffset : (line.toList.take offset).length = offset := by
    have hrestLength := congrArg List.length hdrop
    simp only [List.length_drop, List.length_append, hlength] at hrestLength
    rw [List.length_take]
    omega
  refine ⟨line.toList.take offset, verb, moduleName, after, hverb, ?_, ?_, ?_⟩
  · rw [← hrest, ← hdrop, List.take_append_drop]
  · rw [hoffset, hlength, Nat.zero_add]
  · rw [hoffset, hlength, Nat.zero_add]

/-- The procedure of a call begins after its module. -/
theorem moduleStart_lt_of_mem_qualifiedCalls {line : String} {call : QualifiedCall}
    (h : call ∈ qualifiedCalls line) : call.moduleStart < call.procedureStart := by
  obtain ⟨before, verb, moduleName, after, -, -, hmodule, hprocedure⟩ :=
    exists_text_of_mem_qualifiedCalls h
  omega

/-- A call of which the word is not the module has the word as its procedure. -/
theorem procedure_eq_of_callOfWord? {line : String} {w : Word} {call : QualifiedCall}
    (hw : IsToken line.toList w) (h : callOfWord? line w = some call)
    (hmodule : w.start ≠ call.moduleStart) : call.procedure = w.text := by
  have hmem : call ∈ qualifiedCalls line := List.mem_of_find?_eq_some h
  have hstart : w.start = call.procedureStart := by
    have hpart := List.find?_some h
    simpa [hmodule] using hpart
  obtain ⟨offset, length, hcall⟩ := mem_findAllFrom hmem
  obtain ⟨hposition, rest, hprocedure⟩ := takeIdent?_of_qualifiedCallAt? hcall
  rw [Nat.zero_add] at hposition
  rw [List.drop_drop, ← hposition, ← hstart] at hprocedure
  exact String.toList_inj.mp (hw.eq_of_takeIdent? hprocedure).symm

theorem eq_append_of_localCallIn? {cs name : List Char} (h : localCallIn? cs = some name) :
    IsIdent name ∧ ∃ before, cs = before ++ ("call.".toList ++ name) := by
  induction cs with
  | nil => cases h
  | cons c rest ih =>
      simp only [localCallIn?] at h
      split at h
      · next found hfound =>
          cases h
          obtain ⟨afterVerb, hverb, hname⟩ := Option.bind_eq_some_iff.mp hfound
          refine ⟨isIdent_of_takeIdent? hname, [], ?_⟩
          rw [dropPrefix?_eq_some_iff.mp hverb, eq_append_of_takeIdent? hname, List.append_nil]
          rfl
      · obtain ⟨hname, before, rfl⟩ := ih h
        exact ⟨hname, c :: before, rfl⟩

/-- An unqualified call at a token is a call of the token. -/
theorem take_stop_of_localCall? {line procedure : String} {w : Word}
    (hw : IsToken line.toList w) (h : localCall? line w = some procedure) :
    procedure = w.text ∧
      ∃ before, line.toList.take w.stop = before ++ ("call.".toList ++ w.text.toList) := by
  unfold localCall? at h
  simp only at h
  split at h
  · cases h
  · obtain ⟨name, hname, rfl⟩ := Option.map_eq_some_iff.mp h
    obtain ⟨hident, before, hbefore⟩ := eq_append_of_localCallIn? hname
    rw [Word.upTo, String.toList_ofList] at hbefore
    have hdot : line.toList.take w.stop = (before ++ "call".toList) ++ '.' :: name := by
      rw [hbefore, List.append_assoc]
      rfl
    have htext : w.text.toList = name := hw.eq_of_take_stop hdot (by decide) hident
    refine ⟨?_, before, ?_⟩
    · rw [← htext, String.ofList_toList]
    · rw [hbefore, htext]

theorem eq_of_localCall? {line procedure : String} {w : Word} (hw : IsToken line.toList w)
    (h : localCall? line w = some procedure) : procedure = w.text :=
  (take_stop_of_localCall? hw h).1

end AsmNavigator.Source
