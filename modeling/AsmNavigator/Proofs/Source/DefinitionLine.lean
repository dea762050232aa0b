import AsmNavigator.Proofs.Source.WrittenDeclarations
import AsmNavigator.Source.Definition

/-! # The line that defines a name

A line that defines something opens with blanks and keywords; `Opens` lists the openings.
Asking a line for the name that it defines and asking it for a given name both look
behind the opening. They differ in where the name has to end: the name that is read ends
where no identifier goes on, the name of a procedure that is looked for ends at a word
boundary, and letters beyond ASCII are on the same side of the second only.
-/

namespace AsmNavigator.Source

open Text

/-! ## Characters -/

theorem toNat_of_isIdentChar {c : Char} (h : isIdentChar c = true) :
    48 ≤ c.toNat ∧ c.toNat < 123 := by
  have halphanum : c.isAlphanum = ((decide (c.val ≥ 'A'.val ∧ c.val ≤ 'Z'.val) ||
      decide (c.val ≥ 'a'.val) && decide (c.val ≤ 'z'.val)) ||
        decide (c.val ≥ '0'.val) && decide (c.val ≤ '9'.val)) := rfl
  simp only [isIdentChar, halphanum, Bool.or_eq_true, Bool.and_eq_true, decide_eq_true_eq,
    beq_iff_eq] at h
  have hbetween : ∀ low high : Char, 48 ≤ low.toNat → high.toNat < 123 →
      low.val ≤ c.val → c.val ≤ high.val → 48 ≤ c.toNat ∧ c.toNat < 123 := by
    intro low high hlow hhigh hle hge
    exact ⟨Nat.le_trans hlow hle, Nat.lt_of_le_of_lt hge hhigh⟩
  rcases h with ((⟨hle, hge⟩ | ⟨hle, hge⟩) | ⟨hle, hge⟩) | rfl
  · exact hbetween 'A' 'Z' (by decide) (by decide) hle hge
  · exact hbetween 'a' 'z' (by decide) (by decide) hle hge
  · exact hbetween '0' '9' (by decide) (by decide) hle hge
  · decide

theorem isIdentChar_eq_false_of_isBlank {c : Char} (h : isBlank c = true) :
    isIdentChar c = false := by
  rw [Bool.eq_false_iff]
  intro hident
  have hcode := toNat_of_isIdentChar hident
  simp only [isBlank, Bool.or_eq_true, Bool.and_eq_true, decide_eq_true_eq, beq_iff_eq] at h
  omega

/-- Of the ASCII characters those are word characters that identifiers are made of. -/
theorem isWordChar_of_lt {c : Char} (h : c.toNat < 128) : isWordChar c = isIdentChar c := by
  unfold isWordChar isIdentChar
  rw [if_pos h]

theorem isWordChar_of_isIdentChar {c : Char} (h : isIdentChar c = true) :
    isWordChar c = true := by
  have hcode := toNat_of_isIdentChar h
  rw [isWordChar_of_lt (by omega), h]

theorem isIdentChar_eq_false_of_isWordChar {c : Char} (h : isWordChar c = false) :
    isIdentChar c = false := by
  rw [Bool.eq_false_iff]
  intro hident
  rw [isWordChar_of_isIdentChar hident] at h
  cases h

theorem isIdentChar_of_isConstantChar {c : Char} (h : isConstantChar c = true) :
    isIdentChar c = true := by
  have halphanum : c.isAlphanum = ((c.isUpper || c.isLower) || c.isDigit) := rfl
  simp only [isConstantChar, isIdentChar, halphanum, Bool.or_eq_true] at h ⊢
  rcases h with (h | h) | h
  · exact .inl (.inl (.inl h))
  · exact .inl (.inr h)
  · exact .inr h

theorem isIdentStart_of_isConstantStart {c : Char} (h : isConstantStart c = true) :
    isIdentStart c = true := by
  have halpha : c.isAlpha = (c.isUpper || c.isLower) := rfl
  simp only [isConstantStart, isIdentStart, halpha, Bool.or_eq_true] at h ⊢
  rcases h with h | h
  · exact .inl (.inl h)
  · exact .inr h

instance : (name : List Char) → Decidable (IsIdent name)
  | [] => .isFalse fun ⟨_, _, h, _⟩ => nomatch h
  | c :: rest =>
      decidable_of_iff (isIdentStart c = true ∧ rest.all isIdentChar = true)
        ⟨fun h => ⟨c, rest, rfl, h.1, List.all_eq_true.mp h.2⟩,
          fun ⟨_, _, h, hstart, hrest⟩ => by
            cases h
            exact ⟨hstart, List.all_eq_true.mpr hrest⟩⟩

theorem isIdent_of_isConstantName {name : String} (h : isConstantName name = true) :
    IsIdent name.toList := by
  obtain ⟨first, tail, hname, hfirst, htail⟩ := exists_cons_of_isConstantName h
  exact ⟨first, tail, hname, isIdentStart_of_isConstantStart hfirst,
    fun c hc => isIdentChar_of_isConstantChar (htail c hc)⟩

/-! ## Blanks and keywords -/

def AreBlank (cs : List Char) : Prop := ∀ c ∈ cs, isBlank c = true

instance (cs : List Char) : Decidable (AreBlank cs) :=
  decidable_of_iff (cs.all isBlank = true) List.all_eq_true

structure IsSeparator (cs : List Char) : Prop where
  ne_nil : cs ≠ []
  areBlank : AreBlank cs

instance (cs : List Char) : Decidable (IsSeparator cs) :=
  decidable_of_iff (cs ≠ [] ∧ AreBlank cs) ⟨fun h => ⟨h.1, h.2⟩, fun h => ⟨h.ne_nil, h.areBlank⟩⟩

theorem exists_skipOptionalBlanks (cs : List Char) :
    ∃ indent, AreBlank indent ∧ cs = indent ++ skipOptionalBlanks cs :=
  ⟨cs.takeWhile isBlank, fun _ hc => List.mem_takeWhile_imp hc,
    List.takeWhile_append_dropWhile.symm⟩

theorem BeginsWord.skipOptionalBlanks {cs : List Char} (h : BeginsWord cs) :
    Source.skipOptionalBlanks cs = cs := by
  cases cs with
  | nil => rfl
  | cons c cs =>
      unfold Source.skipOptionalBlanks
      rw [List.dropWhile_cons, h c rfl]
      rfl

theorem exists_of_skipBlanks? {cs rest : List Char} (h : skipBlanks? cs = some rest) :
    ∃ gap, IsSeparator gap ∧ cs = gap ++ rest := by
  cases cs with
  | nil => cases h
  | cons c cs =>
      simp only [skipBlanks?] at h
      split at h
      · next hc =>
          cases h
          obtain ⟨more, hmore, hcs⟩ := exists_skipOptionalBlanks cs
          refine ⟨c :: more, ⟨by simp, ?_⟩, congrArg (c :: ·) hcs⟩
          intro d hd
          rcases List.mem_cons.mp hd with rfl | hd
          · exact hc
          · exact hmore d hd
      · cases h

theorem skipBlanks?_append {gap rest : List Char} (hgap : IsSeparator gap)
    (hrest : BeginsWord rest) : skipBlanks? (gap ++ rest) = some rest := by
  obtain ⟨hne, hblank⟩ := hgap
  cases gap with
  | nil => exact absurd rfl hne
  | cons c gap =>
      have hskip : (gap ++ rest).dropWhile isBlank = rest := by
        have hdrop := skipOptionalBlanks_append (fun d hd => hblank d (.tail c hd)) rest
        rw [hrest.skipOptionalBlanks] at hdrop
        exact hdrop
      simp only [List.cons_append, skipBlanks?, hblank c (.head gap), if_true, hskip]

theorem exists_of_afterKeyword? {word : String} {cs rest : List Char}
    (h : afterKeyword? word cs = some rest) :
    ∃ gap, IsSeparator gap ∧ cs = word.toList ++ (gap ++ rest) := by
  obtain ⟨after, hword, hblanks⟩ := Option.bind_eq_some_iff.mp h
  obtain ⟨gap, hgap, rfl⟩ := exists_of_skipBlanks? hblanks
  exact ⟨gap, hgap, dropPrefix?_eq_some_iff.mp hword⟩

theorem afterKeyword?_append (word : String) {gap rest : List Char} (hgap : IsSeparator gap)
    (hrest : BeginsWord rest) : afterKeyword? word (word.toList ++ (gap ++ rest)) = some rest := by
  unfold afterKeyword?
  rw [dropPrefix?_append, Option.bind_some, skipBlanks?_append hgap hrest]

theorem afterPublic_cases (cs : List Char) :
    afterPublic cs = cs ∨
      ∃ gap, IsSeparator gap ∧ cs = "pub".toList ++ (gap ++ afterPublic cs) := by
  unfold afterPublic
  cases h : afterKeyword? "pub" cs with
  | none => exact .inl rfl
  | some rest => exact .inr (exists_of_afterKeyword? h)

/-- Only the text without all of the leading blanks begins with something else. -/
theorem findSome?_blankTails {f : List Char → Option β}
    (hf : ∀ c rest, isBlank c = true → f (c :: rest) = none) (cs : List Char) :
    (blankTails cs).findSome? f = (skipBlanks? cs).bind f := by
  induction cs with
  | nil => rfl
  | cons c rest ih =>
      simp only [blankTails, skipBlanks?]
      split
      · rw [List.findSome?_append, ih]
        cases rest with
        | nil => simp [skipBlanks?]
        | cons d rest =>
            cases hd : isBlank d with
            | true => simp [skipBlanks?, hd, hf d rest hd]
            | false => simp [skipBlanks?, hd]
      · rfl

/-! ## Openings -/

def SymbolKind.keyword : SymbolKind → String
  | .procedure => "proc"
  | .constant => "const"

/-- What stands before the name in a line that defines it. The list holds its keywords. -/
inductive Opens : SymbolKind → List String → List Char → Prop
  | plain {kind : SymbolKind} {indent gap : List Char} (hindent : AreBlank indent)
      (hgap : IsSeparator gap) :
      Opens kind [kind.keyword] (indent ++ (kind.keyword.toList ++ gap))
  | published {kind : SymbolKind} {indent first gap : List Char} (hindent : AreBlank indent)
      (hfirst : IsSeparator first) (hgap : IsSeparator gap) :
      Opens kind ["pub", kind.keyword]
        (indent ++ ("pub".toList ++ (first ++ (kind.keyword.toList ++ gap))))
  | exported {indent : List Char} (hindent : AreBlank indent) :
      Opens .procedure ["export"] (indent ++ "export.".toList)

def afterOpening? (kind : SymbolKind) (line : List Char) : Option (List Char) :=
  let body := skipOptionalBlanks line
  (afterKeyword? kind.keyword (afterPublic body)).or
    (match kind with
      | .procedure => dropPrefix? "export.".toList body
      | .constant => none)

theorem exists_opens_of_afterOpening? {kind : SymbolKind} {line cs : List Char}
    (h : afterOpening? kind line = some cs) :
    ∃ words opening, Opens kind words opening ∧ line = opening ++ cs := by
  obtain ⟨indent, hindent, hline⟩ := exists_skipOptionalBlanks line
  unfold afterOpening? at h
  generalize skipOptionalBlanks line = body at h hline
  subst hline
  rcases Option.or_eq_some_iff.mp h with hkeyword | ⟨-, hexport⟩
  · obtain ⟨gap, hgap, hafter⟩ := exists_of_afterKeyword? hkeyword
    rcases afterPublic_cases body with hplain | ⟨first, hfirst, hpublic⟩
    · refine ⟨_, _, .plain hindent hgap, ?_⟩
      rw [← hplain, hafter]
      simp only [List.append_assoc]
    · refine ⟨_, _, .published hindent hfirst hgap, ?_⟩
      rw [hpublic, hafter]
      simp only [List.append_assoc]
  · cases kind with
    | constant => cases hexport
    | procedure =>
        refine ⟨_, _, .exported hindent, ?_⟩
        rw [dropPrefix?_eq_some_iff.mp hexport, List.append_assoc]

theorem afterOpening?_append {kind : SymbolKind} {words : List String} {opening cs : List Char}
    (h : Opens kind words opening) (hcs : BeginsWord cs) :
    afterOpening? kind (opening ++ cs) = some cs := by
  unfold afterOpening?
  cases h with
  | @plain _ indent gap hindent hgap =>
      have hbody : afterPublic (skipOptionalBlanks (kind.keyword.toList ++ (gap ++ cs))) =
          kind.keyword.toList ++ (gap ++ cs) := by
        cases kind <;> rfl
      simp only [List.append_assoc, skipOptionalBlanks_append hindent, hbody,
        afterKeyword?_append kind.keyword hgap hcs, Option.some_or]
  | @published _ indent first gap hindent hfirst hgap =>
      have hword : BeginsWord (kind.keyword.toList ++ (gap ++ cs)) := by
        intro c hc
        cases kind <;> cases hc <;> rfl
      have hbody : afterPublic (skipOptionalBlanks
          ("pub".toList ++ (first ++ (kind.keyword.toList ++ (gap ++ cs))))) =
            kind.keyword.toList ++ (gap ++ cs) := by
        have hpublic := afterKeyword?_append "pub" hfirst hword
        exact congrArg (Option.getD · _) hpublic
      simp only [List.append_assoc, skipOptionalBlanks_append hindent, hbody,
        afterKeyword?_append kind.keyword hgap hcs, Option.some_or]
  | @exported indent hindent =>
      rw [List.append_assoc, skipOptionalBlanks_append hindent]
      rfl

/-- A line can be cut behind an opening and before a word in one way only. -/
theorem Opens.unique {kind : SymbolKind} {words words' : List String}
    {opening opening' cs cs' : List Char} (h : Opens kind words opening)
    (h' : Opens kind words' opening') (hcs : BeginsWord cs) (hcs' : BeginsWord cs')
    (heq : opening ++ cs = opening' ++ cs') : opening = opening' ∧ cs = cs' := by
  have hafter := afterOpening?_append h hcs
  rw [heq, afterOpening?_append h' hcs'] at hafter
  obtain rfl := Option.some.inj hafter
  exact ⟨List.append_cancel_right heq, rfl⟩

/-! ## The recognisers, seen from behind the opening -/

/-- A line that opens with `export.` opens with no other keyword. -/
theorem afterKeyword?_export {body rest : List Char}
    (h : dropPrefix? "export.".toList body = some rest) :
    afterKeyword? "proc" (afterPublic body) = none := by
  rw [dropPrefix?_eq_some_iff.mp h]
  rfl

theorem bind_or_bind {a b : Option α} (h : ∀ v, b = some v → a = none) (f : α → Option β) :
    (a.bind f).or (b.bind f) = (a.or b).bind f := by
  cases b with
  | none => simp
  | some v => simp [h v rfl]

theorem procedureName?_eq (line : List Char) :
    procedureName? line = (afterOpening? .procedure line).bind takeIdent? :=
  bind_or_bind (fun _ h => afterKeyword?_export h) takeIdent?

def afterEquals? (cs : List Char) : Option (List Char) :=
  dropPrefix? ['='] (skipOptionalBlanks cs)

theorem constantName?_eq (line : List Char) :
    constantName? line = (afterOpening? .constant line).bind fun cs =>
      (takeRun? isConstantStart isConstantChar cs).bind fun taken =>
        (afterEquals? taken.2).map (taken.1, ·) := by
  unfold constantName? afterOpening? afterEquals?
  rw [Option.or_none]
  simp only [Option.bind_eq_bind, SymbolKind.keyword, Option.map_eq_bind, Function.comp_def]

theorem IsIdent.beginsWord {name : List Char} (h : IsIdent name) (rest : List Char) :
    BeginsWord (name ++ rest) :=
  h.isHead.beginsWord rest

/-- A text that begins with a blank does not begin with an identifier. -/
theorem IsIdent.dropPrefix?_blank {name : List Char} (h : IsIdent name) {c : Char}
    (hc : isBlank c = true) (rest : List Char) : dropPrefix? name (c :: rest) = none := by
  cases hdrop : dropPrefix? name (c :: rest) with
  | none => rfl
  | some after =>
      have hword := h.beginsWord after
      rw [← dropPrefix?_eq_some_iff.mp hdrop] at hword
      rw [hword c rfl] at hc
      cases hc

variable {name : List Char} (hname : IsIdent name)
include hname

theorem definesProcedure?_eq (line : List Char) :
    definesProcedure? name line = (afterOpening? .procedure line).bind (afterWord? name) := by
  have hblank : ∀ c rest, isBlank c = true → afterWord? name (c :: rest) = none := by
    intro c rest hc
    unfold afterWord?
    rw [hname.dropPrefix?_blank hc rest]
    rfl
  have hor := bind_or_bind (fun rest h => @afterKeyword?_export (skipOptionalBlanks line) rest h)
    (afterWord? name)
  unfold afterOpening?
  simp only [SymbolKind.keyword]
  rw [← hor]
  simp only [definesProcedure?, findSome?_blankTails hblank, afterKeyword?, Option.bind_assoc]

theorem definesConstant?_eq (line : List Char) :
    definesConstant? name line = (afterOpening? .constant line).bind fun cs =>
      (dropPrefix? name cs).bind afterEquals? := by
  have hblank : ∀ c rest, isBlank c = true →
      (dropPrefix? name (c :: rest)).bind afterEquals? = none := by
    intro c rest hc
    rw [hname.dropPrefix?_blank hc rest]
    rfl
  have htails := findSome?_blankTails (f := fun cs => (dropPrefix? name cs).bind afterEquals?)
    hblank
  show (dropPrefix? "const".toList (afterPublic (skipOptionalBlanks line))).bind (fun rest =>
    (blankTails rest).findSome? fun cs => (dropPrefix? name cs).bind afterEquals?) = _
  unfold afterOpening?
  simp only [htails, afterKeyword?, SymbolKind.keyword, Option.or_none, Option.bind_assoc]

/-! ## The name in the line -/

/-- After an identifier there is a word boundary if no word character follows. -/
theorem isBoundary_iff (rest : List Char) :
    isBoundary name rest = true ↔ ∀ c ∈ rest.head?, isWordChar c = false := by
  obtain ⟨last, hlast⟩ : ∃ last, name.getLast? = some last := by
    obtain ⟨first, tail, rfl, -⟩ := hname
    exact ⟨_, List.getLast?_eq_some_getLast (by simp)⟩
  have hword : isWordChar last = true :=
    isWordChar_of_isIdentChar (hname.forall_mem (List.mem_of_getLast? hlast))
  unfold isBoundary
  cases rest with
  | nil => simp [hlast, hword]
  | cons c rest => simp [hlast, hword]

theorem afterWord?_eq_some_iff {cs rest : List Char} :
    afterWord? name cs = some rest ↔
      takeIdent? cs = some (name, rest) ∧ ∀ c ∈ rest.head?, isWordChar c = false := by
  unfold afterWord?
  rw [Option.filter_eq_some_iff, isBoundary_iff hname, dropPrefix?_eq_some_iff]
  constructor
  · rintro ⟨rfl, hend⟩
    have htake := takeIdent?_append hname fun c hc =>
      isIdentChar_eq_false_of_isWordChar (hend c hc)
    exact ⟨htake, hend⟩
  · rintro ⟨htake, hend⟩
    exact ⟨eq_append_of_takeIdent? htake, hend⟩

/-- A line defines a procedure if the procedure's name can be read from it and no word
character follows the name. -/
theorem definesProcedure?_eq_some_iff {line rest : List Char} :
    definesProcedure? name line = some rest ↔
      procedureName? line = some (name, rest) ∧ ∀ c ∈ rest.head?, isWordChar c = false := by
  rw [definesProcedure?_eq hname, procedureName?_eq]
  cases afterOpening? .procedure line with
  | none => simp
  | some cs => exact afterWord?_eq_some_iff hname

omit hname in
/-- Where only blanks stand before an equals sign, no identifier goes on. -/
theorem isIdentChar_of_afterEquals? {after rest : List Char}
    (h : afterEquals? after = some rest) : ∀ c ∈ after.head?, isIdentChar c = false := by
  intro c hc
  obtain ⟨more, rfl⟩ := List.head?_eq_some_iff.mp hc
  cases hblank : isBlank c with
  | true => exact isIdentChar_eq_false_of_isBlank hblank
  | false =>
      have hequals : skipOptionalBlanks (c :: more) = '=' :: rest := dropPrefix?_eq_some_iff.mp h
      rw [skipOptionalBlanks, List.dropWhile_cons, hblank] at hequals
      obtain rfl := (List.cons.inj hequals).1
      decide

/-- A line defines a constant if the constant's name can be read from it. -/
theorem definesConstant?_eq_some_iff {line rest : List Char}
    (hconstant : isConstantName (String.ofList name) = true) :
    definesConstant? name line = some rest ↔ constantName? line = some (name, rest) := by
  rw [definesConstant?_eq hname, constantName?_eq]
  cases afterOpening? .constant line with
  | none => simp
  | some cs =>
      simp only [Option.bind_some]
      constructor
      · intro h
        obtain ⟨after, hdrop, hequals⟩ := Option.bind_eq_some_iff.mp h
        obtain ⟨first, tail, hcs, hfirst, htail⟩ := exists_cons_of_isConstantName hconstant
        rw [String.toList_ofList] at hcs
        have hend : ∀ c ∈ after.head?, isConstantChar c = false := by
          intro c hc
          have hident := isIdentChar_of_afterEquals? hequals c hc
          rw [Bool.eq_false_iff] at hident ⊢
          exact fun h => hident (isIdentChar_of_isConstantChar h)
        have htake := takeRun?_append hfirst htail hend
        rw [← hcs, ← dropPrefix?_eq_some_iff.mp hdrop] at htake
        rw [htake, Option.bind_some, hequals]
        rfl
      · intro h
        obtain ⟨taken, htake, hequals⟩ := Option.bind_eq_some_iff.mp h
        obtain ⟨after, hafter, htaken⟩ := Option.map_eq_some_iff.mp hequals
        obtain ⟨htext, rfl⟩ := Prod.mk.inj htaken
        rw [eq_append_of_takeRun? htake, htext, dropPrefix?_append]
        exact hafter

/-- Where a line defines a name, the name stands behind an opening, as a whole word. -/
theorem exists_opens_of_defines? {kind : SymbolKind} {line rest : List Char}
    (h : defines? kind name line = some rest) :
    ∃ words opening tail, Opens kind words opening ∧ line = opening ++ (name ++ tail) ∧
      ∀ c ∈ tail.head?, isIdentChar c = false := by
  have hplace : ∃ cs tail, afterOpening? kind line = some cs ∧ cs = name ++ tail ∧
      ∀ c ∈ tail.head?, isIdentChar c = false := by
    cases kind with
    | procedure =>
        rw [defines?, definesProcedure?_eq hname] at h
        obtain ⟨cs, hcs, hword⟩ := Option.bind_eq_some_iff.mp h
        obtain ⟨htake, hend⟩ := (afterWord?_eq_some_iff hname).mp hword
        exact ⟨cs, rest, hcs, eq_append_of_takeIdent? htake,
          fun c hc => isIdentChar_eq_false_of_isWordChar (hend c hc)⟩
    | constant =>
        rw [defines?, definesConstant?_eq hname] at h
        obtain ⟨cs, hcs, hvalue⟩ := Option.bind_eq_some_iff.mp h
        obtain ⟨tail, hdrop, hequals⟩ := Option.bind_eq_some_iff.mp hvalue
        exact ⟨cs, tail, hcs, dropPrefix?_eq_some_iff.mp hdrop,
          isIdentChar_of_afterEquals? hequals⟩
  obtain ⟨cs, tail, hcs, rfl, hend⟩ := hplace
  obtain ⟨words, opening, hopens, hline⟩ := exists_opens_of_afterOpening? hcs
  exact ⟨words, opening, tail, hopens, hline, hend⟩

end AsmNavigator.Source
