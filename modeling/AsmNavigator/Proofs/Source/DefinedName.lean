import AsmNavigator.Proofs.Source.DefinitionLine
import AsmNavigator.Proofs.Source.Words
import Mathlib.Data.Nat.Find

/-! # Where the defined name stands

Behind the opening of a line the name that the line defines is a word of its own, outside
of comments and strings. An earlier occurrence of the name can only lie inside one of the
keywords of the opening, because the name would otherwise hold a blank or a dot.
-/

namespace AsmNavigator

/-! ## Occurrences -/

namespace Text

theorem indexOfText?_eq_some_iff {part cs : List Char} {place : Nat} :
    indexOfText? part cs = some place ↔
      part <+: cs.drop place ∧ ∀ earlier < place, ¬ part <+: cs.drop earlier := by
  induction cs generalizing place with
  | nil =>
      cases part with
      | nil =>
          cases place with
          | zero => simp [indexOfText?]
          | succ place =>
              simp only [indexOfText?, List.isEmpty_nil, if_true]
              constructor
              · intro h
                cases h
              · rintro ⟨-, hearlier⟩
                exact absurd List.nil_prefix (hearlier 0 (Nat.succ_pos place))
      | cons p part => simp [indexOfText?]
  | cons c rest ih =>
      by_cases hhere : part <+: c :: rest
      · have hbegins : part.isPrefixOf (c :: rest) = true := List.isPrefixOf_iff_prefix.mpr hhere
        cases place with
        | zero => simp [indexOfText?, hbegins, hhere]
        | succ place =>
            simp only [indexOfText?, hbegins, if_true]
            constructor
            · intro h
              cases h
            · rintro ⟨-, hearlier⟩
              exact absurd hhere (hearlier 0 (Nat.succ_pos place))
      · have hbegins : part.isPrefixOf (c :: rest) = false := by
          rw [Bool.eq_false_iff]
          exact fun h => hhere (List.isPrefixOf_iff_prefix.mp h)
        simp only [indexOfText?, hbegins, Bool.false_eq_true, if_false]
        cases place with
        | zero => simp [hhere]
        | succ place =>
            simp only [Option.map_eq_some_iff, Nat.add_right_cancel_iff, exists_eq_right, ih,
              List.drop_succ_cons]
            constructor
            · rintro ⟨hthere, hearlier⟩
              refine ⟨hthere, fun earlier hlt => ?_⟩
              cases earlier with
              | zero => exact hhere
              | succ earlier => exact hearlier earlier (Nat.lt_of_succ_lt_succ hlt)
            · rintro ⟨hthere, hearlier⟩
              exact ⟨hthere, fun earlier hlt => hearlier (earlier + 1) (Nat.succ_lt_succ hlt)⟩

/-- A text that occurs somewhere has a first occurrence. -/
theorem exists_indexOfText? {part cs : List Char} {place : Nat} (h : part <+: cs.drop place) :
    ∃ first ≤ place, indexOfText? part cs = some first := by
  classical
  have hsome : ∃ place, part <+: cs.drop place := ⟨place, h⟩
  refine ⟨Nat.find hsome, Nat.find_min' hsome h, ?_⟩
  rw [indexOfText?_eq_some_iff]
  exact ⟨Nat.find_spec hsome, fun _ => Nat.find_min hsome⟩

/-- A text without the separator that begins before the separator ends before it. -/
theorem prefix_of_prefix_append_cons {part before after : List Char} {separator : Char}
    (hpart : separator ∉ part) (h : part <+: before ++ separator :: after) : part <+: before := by
  rcases List.prefix_or_prefix_of_prefix h (List.prefix_append before _) with hshort | hlong
  · exact hshort
  · obtain ⟨more, rfl⟩ := hlong
    have hmore : more <+: separator :: after := (List.prefix_append_right_inj before).mp h
    cases more with
    | nil => simp
    | cons c more =>
        obtain rfl := (List.cons_prefix_cons.mp hmore).1
        exact absurd (List.mem_append_right _ (.head more)) hpart

/-- A text without the separator occurs on one side of it or on the other. -/
theorem infix_append_cons {part before after : List Char} {separator : Char}
    (hpart : separator ∉ part) (h : part <:+: before ++ separator :: after) :
    part <:+: before ∨ part <:+: after := by
  obtain ⟨left, right, heq⟩ := h
  rw [List.append_assoc] at heq
  rcases List.append_eq_append_iff.mp heq with ⟨more, hbefore, hrest⟩ | ⟨more, -, hrest⟩
  · have hbegins : part <+: more := prefix_of_prefix_append_cons hpart ⟨right, hrest⟩
    exact .inl (hbegins.isInfix.trans ⟨left, [], by rw [hbefore, List.append_nil]⟩)
  · cases more with
    | nil =>
        have hbegins : part <+: [] := prefix_of_prefix_append_cons hpart ⟨right, hrest.symm⟩
        rw [List.prefix_nil.mp hbegins]
        exact .inl List.nil_infix
    | cons c more =>
        refine .inr ⟨more, right, ?_⟩
        rw [List.append_assoc]
        exact (List.cons.inj hrest).2.symm

/-- A text without characters of a gap does not begin in the gap. -/
theorem infix_of_infix_append {part gap after : List Char} (hpart : part ≠ [])
    (hgap : ∀ c ∈ gap, c ∉ part) (h : part <:+: gap ++ after) : part <:+: after := by
  induction gap with
  | nil => exact h
  | cons c gap ih =>
      have hsides : part <:+: [] ∨ part <:+: gap ++ after :=
        infix_append_cons (hgap c (.head gap)) h
      rcases hsides with hnil | hrest
      · exact absurd (List.infix_nil.mp hnil) hpart
      · exact ih (fun d hd => hgap d (.tail c hd)) hrest

/-- A text behind a separator that it does not hold is found there, unless it occurs before
the separator. -/
theorem exists_indexOfText?_append_cons {part : List Char} (front : List Char) {separator : Char}
    (hpart : part ≠ []) (hseparator : separator ∉ part) (tail : List Char) :
    ∃ place ≤ front.length + 1,
      indexOfText? part (front ++ separator :: (part ++ tail)) = some place ∧
        (place = front.length + 1 ↔ ¬ part <:+: front) := by
  have hdrop : (front ++ separator :: (part ++ tail)).drop (front.length + 1) = part ++ tail := by
    rw [List.append_cons]
    exact List.drop_left' (by simp)
  obtain ⟨place, hle, hplace⟩ :=
    exists_indexOfText? (hdrop ▸ List.prefix_append part tail)
  obtain ⟨hthere, hfirst⟩ := indexOfText?_eq_some_iff.mp hplace
  refine ⟨place, hle, hplace, ?_⟩
  constructor
  · rintro rfl ⟨left, right, hfront⟩
    have hearlier : part <+: (front ++ separator :: (part ++ tail)).drop left.length := by
      rw [← hfront, List.append_assoc, List.append_assoc, List.drop_left]
      exact List.prefix_append _ _
    have hpositive := List.length_pos_of_ne_nil hpart
    refine hfirst left.length ?_ hearlier
    rw [← hfront, List.length_append, List.length_append]
    omega
  · intro hfront
    by_contra hne
    have hlt : place ≤ front.length := by omega
    rw [List.drop_append_of_le_length hlt] at hthere
    have hbegins : part <+: front.drop place := prefix_of_prefix_append_cons hseparator hthere
    exact hfront (hbegins.isInfix.trans (List.drop_suffix place front).isInfix)

end Text

namespace Source

open Text

theorem IsIdent.ne_nil {name : List Char} (h : IsIdent name) : name ≠ [] := by
  obtain ⟨first, tail, rfl, -⟩ := h
  exact List.cons_ne_nil first tail

/-! ## Words on both sides of a separator -/

/-- The words of a line that is cut at a character outside of identifiers are those of
both parts. -/
theorem wordsFrom_append_cons {separator : Char} (hseparator : isIdentChar separator = false)
    (position : Nat) (state : Option (Nat × List Char)) (before after : List Char) :
    wordsFrom position state (before ++ separator :: after) =
      wordsFrom position state before ++ wordsFrom (position + before.length + 1) none after := by
  have hstart : isIdentStart separator = false := by
    rw [Bool.eq_false_iff] at hseparator ⊢
    exact fun h => hseparator (isIdentChar_of_isIdentStart h)
  induction before generalizing position state with
  | nil =>
      cases state with
      | none => simp [wordsFrom, hstart]
      | some reading => simp [wordsFrom, hseparator]
  | cons c before ih =>
      have hlength : position + (c :: before).length + 1 =
          position + 1 + before.length + 1 := by
        rw [List.length_cons]
        omega
      rw [List.cons_append, hlength]
      cases state with
      | none => simp only [wordsFrom, ih]
      | some reading =>
          simp only [wordsFrom, ih]
          split
          · rfl
          · rfl

/-- A word that is being read goes on to the end of the identifier. -/
theorem wordsFrom_reading {tail rest : List Char} (htail : ∀ c ∈ tail, isIdentChar c = true)
    (hrest : ∀ c ∈ rest.head?, isIdentChar c = false) (position start : Nat)
    (done : List Char) :
    ∃ more, wordsFrom position (some (start, done)) (tail ++ rest) =
      ⟨String.ofList (done.reverse ++ tail), start⟩ :: more := by
  induction tail generalizing position done with
  | nil =>
      cases rest with
      | nil => exact ⟨[], by simp [wordsFrom]⟩
      | cons c rest => exact ⟨_, by simp [wordsFrom, hrest c rfl]; rfl⟩
  | cons c tail ih =>
      obtain ⟨more, hmore⟩ := ih (fun d hd => htail d (.tail c hd)) (position + 1) (c :: done)
      refine ⟨more, ?_⟩
      simp only [List.cons_append, wordsFrom, htail c (.head tail), if_true, hmore,
        List.reverse_cons, List.append_assoc, List.nil_append]

theorem wordsFrom_name {name rest : List Char} (hname : IsIdent name)
    (hrest : ∀ c ∈ rest.head?, isIdentChar c = false) (position : Nat) :
    ∃ more, wordsFrom position none (name ++ rest) =
      ⟨String.ofList name, position⟩ :: more := by
  obtain ⟨first, tail, rfl, hfirst, htail⟩ := hname
  obtain ⟨more, hmore⟩ := wordsFrom_reading htail hrest (position + 1) position [first]
  refine ⟨more, ?_⟩
  simp only [List.cons_append, wordsFrom, hfirst, if_true, hmore, List.reverse_singleton,
    List.nil_append]

theorem IsToken.stop_le {cs : List Char} {w : Word} (h : IsToken cs w) : w.stop ≤ cs.length := by
  have hlength := congrArg List.length h.take_stop
  have hpositive : 0 < w.text.toList.length := by
    obtain ⟨first, tail, heq, -⟩ := h.isIdent
    rw [heq]
    exact Nat.succ_pos _
  simp only [List.length_take, List.length_append, String.length_toList] at hlength hpositive
  unfold Word.stop at hlength ⊢
  omega

/-- An identifier between a character outside of identifiers and its own end is the word
at every column from its first character to the place behind its last. -/
theorem wordAt_of_name {line : String} {before name rest : List Char} {separator : Char}
    (hline : line.toList = before ++ separator :: (name ++ rest))
    (hseparator : isIdentChar separator = false) (hname : IsIdent name)
    (hrest : ∀ c ∈ rest.head?, isIdentChar c = false) {column : Int}
    (hlow : before.length + 1 ≤ column) (hhigh : column ≤ before.length + 1 + name.length) :
    wordAt line column = some ⟨String.ofList name, before.length + 1⟩ := by
  obtain ⟨more, hmore⟩ := wordsFrom_name hname hrest (0 + before.length + 1)
  have hwords : words line =
      wordsFrom 0 none before ++ ⟨String.ofList name, before.length + 1⟩ :: more := by
    rw [words, hline, wordsFrom_append_cons hseparator, hmore, Nat.zero_add]
  have hearlier : ∀ w ∈ wordsFrom 0 none before,
      ¬ ((w.start : Int) ≤ column && column ≤ w.stop) = true := by
    intro w hw hat
    have htoken : IsToken ([] ++ before) w := isToken_of_mem_wordsFrom (.gap (by simp [IsGap])) hw
    have hstop := htoken.stop_le
    rw [List.nil_append] at hstop
    simp only [Bool.and_eq_true, decide_eq_true_eq] at hat
    omega
  rw [wordAt_eq_find?, hwords, List.find?_append, List.find?_eq_none.mpr hearlier, Option.none_or,
    List.find?_cons_of_pos]
  simp only [Word.stop, String.length_ofList, Bool.and_eq_true, decide_eq_true_eq]
  omega

/-! ## The name behind the opening -/

/-- No identifier goes on behind a text. -/
def EndsOutside (cs : List Char) : Prop :=
  ∃ front separator, cs = front ++ [separator] ∧ isIdentChar separator = false

theorem EndsOutside.append {cs : List Char} (h : EndsOutside cs) (before : List Char) :
    EndsOutside (before ++ cs) := by
  obtain ⟨front, separator, rfl, hseparator⟩ := h
  exact ⟨before ++ front, separator, (List.append_assoc ..).symm, hseparator⟩

theorem IsSeparator.exists_concat {gap : List Char} (h : IsSeparator gap) :
    ∃ front blank, gap = front ++ [blank] ∧ isBlank blank = true := by
  obtain ⟨hne, hblank⟩ := h
  obtain ⟨front, blank, rfl⟩ := (List.eq_nil_or_concat gap).resolve_left hne
  rw [List.concat_eq_append] at hblank ⊢
  exact ⟨front, blank, rfl, hblank blank (by simp)⟩

theorem IsSeparator.endsOutside {gap : List Char} (h : IsSeparator gap) : EndsOutside gap := by
  obtain ⟨front, blank, hgap, hblank⟩ := h.exists_concat
  exact ⟨front, blank, hgap, isIdentChar_eq_false_of_isBlank hblank⟩

/-- An opening ends with a blank or with the dot of `export.`. -/
theorem Opens.ends {kind : SymbolKind} {words : List String} {opening : List Char}
    (h : Opens kind words opening) :
    (∃ front blank, opening = front ++ [blank] ∧ isBlank blank = true) ∨
      ∃ indent, opening = indent ++ "export.".toList := by
  cases h with
  | @plain _ indent _ _ hgap =>
      obtain ⟨front, blank, rfl, hblank⟩ := hgap.exists_concat
      refine .inl ⟨indent ++ (kind.keyword.toList ++ front), blank, ?_, hblank⟩
      simp only [List.append_assoc]
  | @published _ indent first _ _ _ hgap =>
      obtain ⟨front, blank, rfl, hblank⟩ := hgap.exists_concat
      refine .inl ⟨indent ++ ("pub".toList ++ (first ++ (kind.keyword.toList ++ front))), blank,
        ?_, hblank⟩
      simp only [List.append_assoc]
  | @exported indent _ => exact .inr ⟨indent, rfl⟩

theorem Opens.endsOutside {kind : SymbolKind} {words : List String} {opening : List Char}
    (h : Opens kind words opening) : EndsOutside opening := by
  rcases h.ends with ⟨front, blank, hopening, hblank⟩ | ⟨indent, hopening⟩
  · exact ⟨front, blank, hopening, isIdentChar_eq_false_of_isBlank hblank⟩
  · refine ⟨indent ++ "export".toList, '.', ?_, by decide⟩
    rw [hopening, List.append_assoc]
    rfl

/-- Blanks are no part of an identifier. -/
theorem AreBlank.not_mem {gap name : List Char} (h : AreBlank gap) (hname : IsIdent name) :
    ∀ c ∈ gap, c ∉ name := fun c hc =>
  hname.not_mem (isIdentChar_eq_false_of_isBlank (h c hc))

theorem IsSeparator.infix_sides {before gap after name : List Char} (h : IsSeparator gap)
    (hname : IsIdent name) (hoccurs : name <:+: before ++ (gap ++ after)) :
    name <:+: before ∨ name <:+: after := by
  obtain ⟨hne, hblank⟩ := h
  have houtside := hblank.not_mem hname
  cases gap with
  | nil => exact absurd rfl hne
  | cons c gap =>
      rcases infix_append_cons (houtside c (.head gap)) hoccurs with hbefore | hafter
      · exact .inl hbefore
      · refine .inr (infix_of_infix_append hname.ne_nil ?_ hafter)
        exact fun d hd => houtside d (.tail c hd)

/-- An identifier that occurs in an opening occurs in one of the keywords. -/
theorem Opens.infix_iff {kind : SymbolKind} {words : List String} {opening name : List Char}
    (h : Opens kind words opening) (hname : IsIdent name) :
    name <:+: opening ↔ ∃ word ∈ words, name <:+: word.toList := by
  have hnil : ¬ name <:+: [] := fun h => hname.ne_nil (List.infix_nil.mp h)
  cases h with
  | @plain _ indent gap hindent hgap =>
      simp only [List.mem_singleton, exists_eq_left]
      constructor
      · intro h
        have hbody := infix_of_infix_append hname.ne_nil (hindent.not_mem hname) h
        rw [← List.append_nil gap] at hbody
        exact (hgap.infix_sides hname hbody).resolve_right hnil
      · exact fun h => h.trans ⟨indent, gap, by rw [List.append_assoc]⟩
  | @published _ indent first gap hindent hfirst hgap =>
      simp only [List.mem_cons, List.not_mem_nil, or_false, exists_eq_or_imp, exists_eq_left]
      constructor
      · intro h
        have hbody := infix_of_infix_append hname.ne_nil (hindent.not_mem hname) h
        refine (hfirst.infix_sides hname hbody).imp_right fun hrest => ?_
        rw [← List.append_nil gap] at hrest
        exact (hgap.infix_sides hname hrest).resolve_right hnil
      · rintro (h | h)
        · exact h.trans ⟨indent, _, by rw [List.append_assoc]⟩
        · refine h.trans ⟨indent ++ ("pub".toList ++ first), gap, ?_⟩
          simp only [List.append_assoc]
  | @exported indent hindent =>
      simp only [List.mem_singleton, exists_eq_left]
      constructor
      · intro h
        have hbody := infix_of_infix_append hname.ne_nil (hindent.not_mem hname) h
        have hdot : '.' ∉ name := hname.not_mem (by decide)
        have hsides : name <:+: "export".toList ∨ name <:+: [] := infix_append_cons hdot hbody
        exact hsides.resolve_right hnil
      · exact fun h => h.trans ⟨indent, ['.'], by rw [List.append_assoc]; rfl⟩

/-- A name is found behind the opening of its line, unless one of the keywords holds it. -/
theorem Opens.exists_indexOfText? {kind : SymbolKind} {words : List String}
    {opening name : List Char} (h : Opens kind words opening) (hname : IsIdent name)
    (tail : List Char) :
    ∃ place ≤ opening.length, indexOfText? name (opening ++ (name ++ tail)) = some place ∧
      (place = opening.length ↔ ∀ word ∈ words, ¬ name <:+: word.toList) := by
  obtain ⟨front, separator, hopening, hseparator⟩ := h.endsOutside
  have houtside : separator ∉ name := hname.not_mem hseparator
  obtain ⟨place, hle, hplace, hiff⟩ :=
    exists_indexOfText?_append_cons front hname.ne_nil houtside tail
  have hlength : opening.length = front.length + 1 := by
    rw [hopening, List.length_append, List.length_singleton]
  have hfront : name <:+: opening ↔ name <:+: front := by
    rw [hopening]
    constructor
    · intro h
      refine (infix_append_cons houtside h).resolve_right ?_
      exact fun h => hname.ne_nil (List.infix_nil.mp h)
    · exact fun h => h.trans (List.prefix_append front _).isInfix
  refine ⟨place, by omega, ?_, ?_⟩
  · rw [hopening, ← hplace, List.append_assoc]
    rfl
  · rw [hlength, hiff, ← hfront, h.infix_iff hname]
    simp

/-- The name is the word at every column from its first character to the place behind its
last. -/
theorem Opens.wordAt {kind : SymbolKind} {words : List String} {opening name tail : List Char}
    (h : Opens kind words opening) (hname : IsIdent name) {line : String}
    (hline : line.toList = opening ++ (name ++ tail))
    (htail : ∀ c ∈ tail.head?, isIdentChar c = false) {column : Int}
    (hlow : opening.length ≤ column) (hhigh : column ≤ opening.length + name.length) :
    wordAt line column = some ⟨String.ofList name, opening.length⟩ := by
  obtain ⟨front, separator, rfl, hseparator⟩ := h.endsOutside
  have hlength : (front ++ [separator]).length = front.length + 1 := by simp
  have hcut : line.toList = front ++ separator :: (name ++ tail) := by
    rw [hline, List.append_assoc]
    rfl
  rw [hlength] at hlow hhigh ⊢
  exact wordAt_of_name hcut hseparator hname htail (by omega) (by omega)

/-! ## Outside of comments and strings -/

/-- A text with neither a comment sign nor a quotation mark. -/
def IsQuiet (cs : List Char) : Prop := ∀ c ∈ cs, c ≠ '#' ∧ c ≠ '"'

instance (cs : List Char) : Decidable (IsQuiet cs) :=
  decidable_of_iff (cs.all (fun c => c ≠ '#' ∧ c ≠ '"') = true) (by simp [IsQuiet])

theorem IsQuiet.append {cs ds : List Char} (hcs : IsQuiet cs) (hds : IsQuiet ds) :
    IsQuiet (cs ++ ds) := by
  intro c hc
  rcases List.mem_append.mp hc with hc | hc
  · exact hcs c hc
  · exact hds c hc

theorem IsQuiet.isExcluded {cs : List Char} (h : IsQuiet cs) :
    Source.isExcluded (String.ofList cs) = false := by
  have hsign : cs.contains '#' = false := by
    rw [Bool.eq_false_iff]
    exact fun hmem => (h _ (List.contains_iff_mem.mp hmem)).1 rfl
  have hmark : cs.count '"' = 0 := List.count_eq_zero.mpr fun hmem => (h _ hmem).2 rfl
  unfold Source.isExcluded
  rw [String.toList_ofList, hsign, hmark]
  rfl

theorem AreBlank.isQuiet {cs : List Char} (h : AreBlank cs) : IsQuiet cs := by
  intro c hc
  have hblank := h c hc
  constructor
  · rintro rfl
    cases hblank
  · rintro rfl
    cases hblank

/-- Nothing in an opening begins a comment or a string. -/
theorem Opens.isQuiet {kind : SymbolKind} {words : List String} {opening : List Char}
    (h : Opens kind words opening) : IsQuiet opening := by
  have hkeyword : IsQuiet kind.keyword.toList := by
    cases kind <;> decide
  have hpublic : IsQuiet "pub".toList := by decide
  have hexport : IsQuiet "export.".toList := by decide
  cases h with
  | plain hindent hgap =>
      exact hindent.isQuiet.append (hkeyword.append hgap.areBlank.isQuiet)
  | published hindent hfirst hgap =>
      exact hindent.isQuiet.append (hpublic.append (hfirst.areBlank.isQuiet.append
        (hkeyword.append hgap.areBlank.isQuiet)))
  | exported hindent => exact hindent.isQuiet.append hexport

/-! ## Neither an import nor a call -/

theorem Opens.import?_eq_none {kind : SymbolKind} {words : List String} {opening : List Char}
    (h : Opens kind words opening) (rest : List Char) : import? (opening ++ rest) = none := by
  cases h with
  | plain hindent hgap =>
      unfold import?
      rw [List.append_assoc, skipOptionalBlanks_append hindent]
      cases kind <;> rfl
  | published hindent hfirst hgap =>
      unfold import?
      rw [List.append_assoc, skipOptionalBlanks_append hindent]
      rfl
  | exported hindent =>
      unfold import?
      rw [List.append_assoc, skipOptionalBlanks_append hindent]
      rfl

/-- An opening ends with two other characters than these, if the second is no blank and the
two are not those that `export.` ends with. -/
theorem Opens.ne_append_pair {kind : SymbolKind} {words : List String} {opening : List Char}
    (h : Opens kind words opening) {a b : Char} (hb : isBlank b = false)
    (hpair : [a, b] ≠ ['t', '.']) (before : List Char) : opening ≠ before ++ [a, b] := by
  intro hlast
  rcases h.ends with ⟨front, blank, hopening, hblank⟩ | ⟨indent, hopening⟩
  · have heq : (before ++ [a]) ++ [b] = front ++ [blank] := by
      rw [← hopening, hlast, List.append_assoc]
      rfl
    have hsame : b = blank := List.singleton_inj.mp (List.append_inj_right' heq rfl)
    rw [hsame, hblank] at hb
    cases hb
  · have heq : before ++ [a, b] = (indent ++ "expor".toList) ++ ['t', '.'] := by
      rw [← hlast, hopening, List.append_assoc]
      rfl
    exact hpair (List.append_inj_right' heq rfl)

/-- No call pattern reaches the end of an opening. -/
theorem Opens.ne_append_verb {kind : SymbolKind} {words : List String}
    {opening verb : List Char} (h : Opens kind words opening)
    (hverb : verb = "exec.".toList ∨ verb = "call.".toList) (before : List Char) :
    opening ≠ before ++ verb := by
  rcases hverb with rfl | rfl
  · intro hopening
    refine h.ne_append_pair (a := 'c') (b := '.') (by decide) (by decide)
      (before ++ "exe".toList) ?_
    rw [hopening, List.append_assoc]
    rfl
  · intro hopening
    refine h.ne_append_pair (a := 'l') (b := '.') (by decide) (by decide)
      (before ++ "cal".toList) ?_
    rw [hopening, List.append_assoc]
    rfl

/-- A defined name is no part of a qualified call. -/
theorem Opens.callOfWord?_eq_none {kind : SymbolKind} {words : List String}
    {opening rest : List Char} (h : Opens kind words opening) {line : String}
    (hline : line.toList = opening ++ rest) {w : Word} (hw : w.start = opening.length) :
    callOfWord? line w = none := by
  unfold callOfWord?
  rw [List.find?_eq_none]
  intro call hcall hpart
  obtain ⟨before, verb, moduleName, after, hverb, htext, hmodule, hprocedure⟩ :=
    exists_text_of_mem_qualifiedCalls hcall
  rw [hline] at htext
  simp only [Bool.or_eq_true, decide_eq_true_eq, hw] at hpart
  rcases hpart with hstart | hstart
  · rw [← List.append_assoc] at htext
    have hopening : opening = before ++ verb :=
      List.append_inj_left htext (by rw [List.length_append, hstart, hmodule])
    exact h.ne_append_verb hverb before hopening
  · have hcut : opening ++ rest = (before ++ (verb ++ moduleName) ++ [':', ':']) ++ after := by
      rw [htext]
      simp
    have hopening : opening = before ++ (verb ++ moduleName) ++ [':', ':'] := by
      refine List.append_inj_left hcut ?_
      simp only [List.length_append, List.length_cons, List.length_nil, hstart, hprocedure]
      omega
    exact h.ne_append_pair (by decide) (by decide) _ hopening

/-- A defined name is not called where it is defined. -/
theorem Opens.localCall?_eq_none {kind : SymbolKind} {words : List String}
    {opening rest : List Char} (h : Opens kind words opening) {line : String}
    (hline : line.toList = opening ++ rest) {w : Word} (hw : IsToken line.toList w)
    (hstart : w.start = opening.length) : localCall? line w = none := by
  cases hcall : localCall? line w with
  | none => rfl
  | some procedure =>
      obtain ⟨-, before, htake⟩ := take_stop_of_localCall? hw hcall
      rw [hw.take_stop, hline, hstart, List.take_left, ← List.append_assoc] at htake
      exact absurd (List.append_cancel_right htake) (h.ne_append_verb (.inr rfl) before)

end Source

end AsmNavigator
