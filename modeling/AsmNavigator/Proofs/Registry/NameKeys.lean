import AsmNavigator.Proofs.Registry.VersionNames
import Mathlib.Data.List.Chain
import Mathlib.Data.Nat.Digits.Defs

/-! # The key of a name

A name can be cut in one way only into pieces that are in turn runs of decimal digits and
texts without any. It has a key exactly if each piece can be converted, and the key has one
part for each piece. Two kinds of pieces cannot: a text of characters that all look like
digits, and a run of too many digits.
-/

namespace AsmNavigator

def VersionPart.isNumber : VersionPart → Bool
  | .number _ => true
  | .text _ => false

namespace VersionKey

open Text

/-! ## Pieces -/

inductive Piece where
  | digits (run : List Char)
  | text (run : List Char)

namespace Piece

def chars : Piece → List Char
  | .digits run => run
  | .text run => run

def isDigits : Piece → Bool
  | .digits _ => true
  | .text _ => false

/-- A piece that is not empty and whose characters are of its kind. -/
structure IsProper (piece : Piece) : Prop where
  nonempty : piece.chars ≠ []
  uniform : ∀ c ∈ piece.chars, isDecimalDigit c = piece.isDigits

/-- What a piece contributes to a key: the number that its digits denote in positional
notation, or its text in lower case. -/
def part : Piece → VersionPart
  | .digits run => .number (Nat.ofDigits 10 (run.reverse.map fun c => (decimalValue? c).getD 0))
  | .text run => .text (lowerCase (String.ofList run))

/-- A piece that cannot be converted, and what is raised for it. -/
inductive Unconvertible : Piece → Fault → Prop where
  | lookalike {run : List Char} : (∀ c ∈ run, isDigitLike c = true) →
      Unconvertible (.text run) (.notANumber (String.ofList run))
  | overlong {run : List Char} : Numeral.digitLimit < run.length →
      Unconvertible (.digits run) (.tooManyDigits run.length)

def IsConvertible (piece : Piece) : Prop := ∀ fault, ¬ piece.Unconvertible fault

theorem Unconvertible.kind {piece : Piece} {fault : Fault} (h : piece.Unconvertible fault) :
    fault.kind = "ValueError" := by
  cases h <;> rfl

def ofRun (run : List Char) : Piece :=
  if run.all isDecimalDigit then .digits run else .text run

def cons (c : Char) : Piece → Piece
  | .digits run => .digits (c :: run)
  | .text run => .text (c :: run)

@[simp] theorem chars_cons (c : Char) (piece : Piece) :
    (piece.cons c).chars = c :: piece.chars := by
  cases piece <;> rfl

@[simp] theorem isDigits_cons (c : Char) (piece : Piece) :
    (piece.cons c).isDigits = piece.isDigits := by
  cases piece <;> rfl

@[simp] theorem isNumber_part (piece : Piece) : piece.part.isNumber = piece.isDigits := by
  cases piece <;> rfl

theorem IsProper.cons {piece : Piece} (h : piece.IsProper) {c : Char}
    (hc : isDecimalDigit c = piece.isDigits) : (piece.cons c).IsProper := by
  refine ⟨by simp, fun d hd => ?_⟩
  rw [isDigits_cons]
  rw [chars_cons] at hd
  rcases List.mem_cons.mp hd with rfl | hd
  · exact hc
  · exact h.uniform d hd

@[simp] theorem chars_ofRun (run : List Char) : (ofRun run).chars = run := by
  unfold ofRun
  split <;> rfl

theorem IsProper.all_digits {run : List Char} (h : (digits run).IsProper) :
    run.all isDecimalDigit = true :=
  List.all_eq_true.mpr h.uniform

theorem IsProper.all_text {run : List Char} (h : (text run).IsProper) :
    run.all isDecimalDigit = false := by
  obtain ⟨c, hc⟩ := List.exists_mem_of_ne_nil run h.nonempty
  have hkind : isDecimalDigit c = false := h.uniform c hc
  exact List.all_eq_false.mpr ⟨c, hc, by simp [hkind]⟩

theorem IsProper.ofRun_chars {piece : Piece} (h : piece.IsProper) :
    ofRun piece.chars = piece := by
  cases piece with
  | digits run => exact if_pos h.all_digits
  | text run => exact if_neg (by simp [chars, h.all_text])

end Piece

/-- A name as pieces of alternating kind. -/
structure IsCut (name : String) (pieces : List Piece) : Prop where
  joined : pieces.flatMap Piece.chars = name.toList
  proper : ∀ piece ∈ pieces, piece.IsProper
  alternates : pieces.IsChain (·.isDigits ≠ ·.isDigits)

/-! ## The cut of a name -/

theorem decimalNumber_eq_ofDigits (run : List Char) :
    decimalNumber run = Nat.ofDigits 10 (run.reverse.map fun c => (decimalValue? c).getD 0) := by
  have hfold : ∀ (cs : List Char),
      cs.foldr (fun c n => 10 * n + (decimalValue? c).getD 0) 0 =
        Nat.ofDigits 10 (cs.map fun c => (decimalValue? c).getD 0) := by
    intro cs
    induction cs with
    | nil => rfl
    | cons c rest ih =>
        rw [List.foldr_cons, ih, List.map_cons, Nat.ofDigits_cons]
        simp [Nat.add_comm]
  rw [decimalNumber, List.foldl_eq_foldr_reverse, hfold]

/-- The runs of what begins with a proper piece, if the next character is of the other
kind. -/
theorem runs_chars_append {piece : Piece} (hpiece : piece.IsProper) {rest : List Char}
    (hrest : ∀ c ∈ rest.head?, isDecimalDigit c ≠ piece.isDigits) :
    runs isDecimalDigit (piece.chars ++ rest) = piece.chars :: runs isDecimalDigit rest :=
  runs_append_of_all hpiece.nonempty hpiece.uniform hrest

theorem head?_flatMap_chars {pieces : List Piece} (hproper : ∀ piece ∈ pieces, piece.IsProper) :
    ∀ c ∈ (pieces.flatMap Piece.chars).head?, ∃ piece ∈ pieces.head?,
      isDecimalDigit c = piece.isDigits := by
  intro c hc
  cases pieces with
  | nil => cases hc
  | cons first rest =>
      have hfirst := hproper first List.mem_cons_self
      rw [List.flatMap_cons, List.head?_append_of_ne_nil _ hfirst.nonempty] at hc
      exact ⟨first, rfl, hfirst.uniform c (List.mem_of_mem_head? hc)⟩

theorem runs_flatMap_chars {pieces : List Piece} (hproper : ∀ piece ∈ pieces, piece.IsProper)
    (halternates : pieces.IsChain (·.isDigits ≠ ·.isDigits)) :
    runs isDecimalDigit (pieces.flatMap Piece.chars) = pieces.map Piece.chars := by
  induction pieces with
  | nil => rfl
  | cons first rest ih =>
      obtain ⟨hfirst, hrest⟩ := List.forall_mem_cons.mp hproper
      obtain ⟨hnext, halternates⟩ := List.isChain_cons.mp halternates
      rw [List.flatMap_cons, List.map_cons, runs_chars_append hfirst, ih hrest halternates]
      intro c hc
      obtain ⟨piece, hpiece, hkind⟩ := head?_flatMap_chars hrest c hc
      rw [hkind]
      exact (hnext piece hpiece).symm

/-- The only cut of a name is the one into its runs. -/
theorem IsCut.eq_runs {name : String} {pieces : List Piece} (h : IsCut name pieces) :
    pieces = (runs isDecimalDigit name.toList).map Piece.ofRun := by
  rw [← h.joined, runs_flatMap_chars h.proper h.alternates, List.map_map]
  have hsame : ∀ piece ∈ pieces, (Piece.ofRun ∘ Piece.chars) piece = piece :=
    fun piece hpiece => (h.proper piece hpiece).ofRun_chars
  rw [List.map_congr_left hsame, List.map_id']

theorem isProper_ofRun_singleton (c : Char) : (Piece.ofRun [c]).IsProper := by
  refine ⟨by simp, fun d hd => ?_⟩
  rw [Piece.chars_ofRun, List.mem_singleton] at hd
  subst hd
  cases hc : isDecimalDigit d <;> simp [Piece.ofRun, Piece.isDigits, hc]

/-- Every text has a cut: a character in front joins the first piece or is one of its own. -/
theorem exists_cut (cs : List Char) : ∃ pieces : List Piece,
    pieces.flatMap Piece.chars = cs ∧ (∀ piece ∈ pieces, piece.IsProper) ∧
      pieces.IsChain (·.isDigits ≠ ·.isDigits) := by
  induction cs with
  | nil => exact ⟨[], rfl, by simp, .nil⟩
  | cons c rest ih =>
      obtain ⟨pieces, rfl, hproper, halternates⟩ := ih
      have hsingle := isProper_ofRun_singleton c
      cases pieces with
      | nil => exact ⟨[.ofRun [c]], by simp, by simpa using hsingle, .singleton _⟩
      | cons first more =>
          obtain ⟨hfirst, hmore⟩ := List.forall_mem_cons.mp hproper
          have hkind : isDecimalDigit c = (Piece.ofRun [c]).isDigits := hsingle.uniform c (by simp)
          by_cases hjoins : isDecimalDigit c = first.isDigits
          · refine ⟨first.cons c :: more, by simp, ?_, ?_⟩
            · exact List.forall_mem_cons.mpr ⟨hfirst.cons hjoins, hmore⟩
            · rw [List.isChain_cons] at halternates ⊢
              simpa using halternates
          · refine ⟨.ofRun [c] :: first :: more, by simp, ?_, ?_⟩
            · exact List.forall_mem_cons.mpr ⟨hsingle, hproper⟩
            · exact .cons_cons (hkind ▸ hjoins) halternates

theorem exists_isCut (name : String) : ∃ pieces, IsCut name pieces := by
  obtain ⟨pieces, hjoined, hproper, halternates⟩ := exists_cut name.toList
  exact ⟨pieces, hjoined, hproper, halternates⟩

theorem IsCut.unique {name : String} {pieces other : List Piece} (h : IsCut name pieces)
    (hother : IsCut name other) : other = pieces :=
  hother.eq_runs.trans h.eq_runs.symm

/-! ## Converting the pieces -/

theorem partOfRun_chars {piece : Piece} (h : piece.IsProper) :
    (∃ fault, piece.Unconvertible fault ∧ partOfRun piece.chars = .error fault) ∨
      piece.IsConvertible ∧ partOfRun piece.chars = .ok piece.part := by
  cases piece with
  | digits run =>
      have hpart : partOfRun run = if run.length > Numeral.digitLimit then
          .error (.tooManyDigits run.length) else .ok (.number (decimalNumber run)) :=
        if_pos h.all_digits
      rw [Piece.chars, hpart, decimalNumber_eq_ofDigits]
      by_cases hlong : run.length > Numeral.digitLimit
      · exact .inl ⟨_, .overlong hlong, if_pos hlong⟩
      · refine .inr ⟨fun fault hfault => ?_, if_neg hlong⟩
        cases hfault with
        | overlong hover => exact hlong hover
  | text run =>
      have hpart : partOfRun run = if run.all isDigitLike then
          .error (.notANumber (String.ofList run))
          else .ok (.text (lowerCase (String.ofList run))) :=
        if_neg (by simp [h.all_text])
      rw [Piece.chars, hpart]
      by_cases hlike : run.all isDigitLike = true
      · exact .inl ⟨_, .lookalike (List.all_eq_true.mp hlike), if_pos hlike⟩
      · refine .inr ⟨fun fault hfault => ?_, if_neg hlike⟩
        cases hfault with
        | lookalike hlooks => exact hlike (List.all_eq_true.mpr hlooks)

/-- The pieces are converted from left to right, as far as the first that cannot be. -/
theorem mapM_partOfRun {pieces : List Piece} (hproper : ∀ piece ∈ pieces, piece.IsProper) :
    (∃ before piece after fault, pieces = before ++ piece :: after ∧
        (∀ earlier ∈ before, earlier.IsConvertible) ∧ piece.Unconvertible fault ∧
        (pieces.map Piece.chars).mapM partOfRun = .error fault) ∨
      (∀ piece ∈ pieces, piece.IsConvertible) ∧
        (pieces.map Piece.chars).mapM partOfRun = .ok (pieces.map Piece.part) := by
  induction pieces with
  | nil => exact .inr ⟨by simp, rfl⟩
  | cons first rest ih =>
      obtain ⟨hfirst, hrest⟩ := List.forall_mem_cons.mp hproper
      rw [List.map_cons, List.mapM_cons]
      rcases partOfRun_chars hfirst with ⟨fault, hfault, hpart⟩ | ⟨hconvertible, hpart⟩
      · refine .inl ⟨[], first, rest, fault, rfl, by simp, hfault, ?_⟩
        rw [hpart]
        rfl
      rcases ih hrest with
        ⟨before, piece, after, fault, rfl, hbefore, hfault, hmore⟩ | ⟨hall, hmore⟩
      · refine .inl ⟨first :: before, piece, after, fault, rfl, ?_, hfault, ?_⟩
        · exact List.forall_mem_cons.mpr ⟨hconvertible, hbefore⟩
        · rw [hpart, hmore]
          rfl
      · refine .inr ⟨List.forall_mem_cons.mpr ⟨hconvertible, hall⟩, ?_⟩
        rw [hpart, hmore]
        rfl

/-- A name is cut into pieces in one way. It has no key exactly if one of them cannot be
converted, and the first of these decides what is raised; otherwise each piece gives one
part of the key, and numbers and texts alternate. -/
theorem ofName_converts_pieces (name : String) :
    ∃ pieces, IsCut name pieces ∧ (∀ other, IsCut name other → other = pieces) ∧
      match ofName name with
      | .error fault => fault.kind = "ValueError" ∧
          ∃ before piece after, pieces = before ++ piece :: after ∧
            (∀ earlier ∈ before, earlier.IsConvertible) ∧ piece.Unconvertible fault
      | .ok key => (∀ piece ∈ pieces, piece.IsConvertible) ∧ key = pieces.map Piece.part ∧
          key.IsChain (·.isNumber ≠ ·.isNumber) := by
  obtain ⟨pieces, hcut⟩ := exists_isCut name
  refine ⟨pieces, hcut, fun other hother => hcut.unique hother, ?_⟩
  have hruns : ofName name = (pieces.map Piece.chars).mapM partOfRun := by
    rw [ofName, ← hcut.joined, runs_flatMap_chars hcut.proper hcut.alternates]
  rw [hruns]
  rcases mapM_partOfRun hcut.proper with
    ⟨before, piece, after, fault, hpieces, hbefore, hfault, hmapM⟩ | ⟨hall, hmapM⟩
  · rw [hmapM]
    exact ⟨hfault.kind, before, piece, after, hpieces, hbefore, hfault⟩
  · rw [hmapM]
    refine ⟨hall, rfl, ?_⟩
    rw [List.isChain_map]
    simpa using hcut.alternates

-- A digit that is not a decimal one can be in a text, but no text is made of such digits.
example : ofName "v²" = .ok [.text "v²"] := by cbv
example : ofName "²" = .error (.notANumber "²") := by cbv

end VersionKey

end AsmNavigator
