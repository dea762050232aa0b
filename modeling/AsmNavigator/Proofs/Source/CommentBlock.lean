import AsmNavigator.Proofs.Source.Recognisers
import AsmNavigator.Source.DocComment
import Mathlib.Data.Nat.Find
import Mathlib.Order.Bounds.Basic

/-! # The block of comments above a definition

The lines right above a definition that are blank or comments form a block, which begins
behind the nearest line of another kind or at the first line of the file. The documentation
of the definition is what the documentation lines of this block say, and no line further up
has a part in it.
-/

namespace AsmNavigator.Source

open Text

def IsDocLine (line : String) : Prop :=
  ['#', '!'] <+: (trim line).toList

/-- A blank line or a comment of any kind, which separates no documentation from what it
documents. -/
def IsRemark (line : String) : Prop :=
  trim line = "" ∨ ['#'] <+: (trim line).toList

instance : DecidablePred IsDocLine := fun _ => inferInstanceAs (Decidable (_ <+: _))

instance : DecidablePred IsRemark := fun _ => inferInstanceAs (Decidable (_ ∨ _))

def docText (line : String) : String :=
  trim (String.ofList ((trim line).toList.drop 2))

def docTexts (lines : List String) : List String :=
  (lines.filter fun line => IsDocLine line).map docText

theorem docTexts_reverse (lines : List String) :
    docTexts lines.reverse = (docTexts lines).reverse := by
  simp only [docTexts, List.filter_reverse, List.map_reverse]

theorem isRemark_of_isDocLine {line : String} (h : IsDocLine line) : IsRemark line :=
  .inr (.trans (List.prefix_append ['#'] ['!']) h)

/-! ## Reading upwards -/

section Upwards

variable {line : String} {rest : List String}

theorem isRemark_iff_skips : IsRemark line ↔
    ((trim line).toList.isEmpty || (trim line).toList.head? = some '#') = true := by
  rw [Bool.or_eq_true, List.isEmpty_iff, decide_eq_true_iff, String.toList_eq_nil_iff, IsRemark]
  refine or_congr_right ?_
  cases (trim line).toList with
  | nil => simp
  | cons c cs => simp [eq_comm]

theorem docUpwards_cons_of_isRemark (h : IsRemark line) :
    docUpwards (line :: rest) = docTexts [line] ++ docUpwards rest := by
  rw [docUpwards]
  cases hdrop : dropPrefix? ['#', '!'] (trim line).toList with
  | some doc =>
      have htext := dropPrefix?_eq_some_iff.mp hdrop
      have hdoc : IsDocLine line := ⟨doc, htext.symm⟩
      simp [docTexts, hdoc, docText, htext]
  | none =>
      have hno : ¬ IsDocLine line := by
        rintro ⟨doc, htext⟩
        rw [← htext, dropPrefix?_append] at hdrop
        cases hdrop
      simp only [docTexts, hno, decide_false, List.filter_cons, List.filter_nil]
      exact if_pos (isRemark_iff_skips.mp h)

theorem docUpwards_cons_of_not_isRemark (h : ¬ IsRemark line) :
    docUpwards (line :: rest) = [] := by
  rw [docUpwards]
  cases hdrop : dropPrefix? ['#', '!'] (trim line).toList with
  | some doc =>
      exact absurd (isRemark_of_isDocLine ⟨doc, (dropPrefix?_eq_some_iff.mp hdrop).symm⟩) h
  | none => exact if_neg (mt isRemark_iff_skips.mpr h)

/-- Remarks are read through, whatever stands above them. -/
theorem docUpwards_append_of_isRemark {block : List String} (h : ∀ line ∈ block, IsRemark line) :
    docUpwards (block ++ rest) = docTexts block ++ docUpwards rest := by
  induction block with
  | nil => rfl
  | cons line block ih =>
      have hsplit : docTexts (line :: block) = docTexts [line] ++ docTexts block := by
        rw [docTexts, docTexts, docTexts, ← List.map_append, ← List.filter_append]
        rfl
      rw [List.cons_append, docUpwards_cons_of_isRemark (h line List.mem_cons_self),
        ih fun other hother => h other (List.mem_cons_of_mem _ hother), hsplit, List.append_assoc]

theorem docUpwards_eq_nil (h : ∀ line ∈ rest.head?, ¬ IsRemark line) : docUpwards rest = [] := by
  cases rest with
  | nil => rfl
  | cons line rest => exact docUpwards_cons_of_not_isRemark (h line rfl)

end Upwards

/-! ## The block -/

def RemarksBetween (lines : List String) (start number : Nat) : Prop :=
  ∀ line ∈ lines.extract start number, IsRemark line

instance (lines : List String) (number : Nat) :
    DecidablePred fun start => RemarksBetween lines start number :=
  fun _ => inferInstanceAs (Decidable (∀ _ ∈ _, _))

/-- The lines from `start` up to `number` are the block of remarks that ends there: the line
above it, if there is one, is no remark. -/
structure IsBlock (lines : List String) (start number : Nat) : Prop where
  start_le : start ≤ number
  remarks : RemarksBetween lines start number
  stops : ∀ i line, i + 1 = start → lines[i]? = some line → ¬ IsRemark line

section Extract

variable {α : Type} {xs : List α} {start stop : Nat}

theorem getElem?_extract {i : Nat} :
    (xs.extract start stop)[i]? = if start + i < stop then xs[start + i]? else none := by
  rw [List.extract_eq_take_drop, List.getElem?_take, List.getElem?_drop]
  congr 1
  exact propext (by omega)

theorem take_append_extract (h : start ≤ stop) :
    xs.take start ++ xs.extract start stop = xs.take stop := by
  rw [List.extract_eq_take_drop, ← List.take_add, Nat.add_sub_cancel' h]

theorem extract_succ {x : α} (hx : xs[start]? = some x) (h : start < stop) :
    xs.extract start stop = x :: xs.extract (start + 1) stop := by
  refine List.ext_getElem? fun i => ?_
  cases i with
  | zero => rw [getElem?_extract, if_pos (by omega), Nat.add_zero, hx, List.getElem?_cons_zero]
  | succ i =>
      rw [List.getElem?_cons_succ, getElem?_extract, getElem?_extract, Nat.add_right_comm,
        Nat.add_assoc]

end Extract

section Block

variable {lines other : List String} {start number : Nat}

theorem remarksBetween_self : RemarksBetween lines number number := by
  simp [RemarksBetween, List.extract_eq_take_drop]

/-- The longest run of remarks is a block: a remark right above it would make it longer. -/
theorem isBlock_of_isLeast (h : IsLeast {k | RemarksBetween lines k number} start) :
    IsBlock lines start number := by
  have hle : start ≤ number := h.2 remarksBetween_self
  refine ⟨hle, h.1, ?_⟩
  rintro i line rfl hline hremark
  have hlonger : RemarksBetween lines i number := by
    unfold RemarksBetween
    rw [extract_succ hline hle]
    exact List.forall_mem_cons.mpr ⟨hremark, h.1⟩
  exact absurd (h.2 hlonger) (by omega)

/-- What stands above a block has no part in the documentation below it. -/
theorem IsBlock.docUpwards_above (h : IsBlock lines start number)
    (hlength : number ≤ lines.length) : docUpwards (lines.take start).reverse = [] := by
  have hle := h.start_le
  refine docUpwards_eq_nil ?_
  intro line hline
  rw [List.head?_reverse] at hline
  cases start with
  | zero => cases hline
  | succ i =>
      have hi : i < lines.length := by omega
      rw [List.take_succ_eq_append_getElem hi, List.getLast?_concat] at hline
      cases hline
      exact h.stops i _ rfl (List.getElem?_eq_getElem hi)

theorem docComment_of_isBlock (hlength : number ≤ lines.length) (h : IsBlock lines start number) :
    docComment lines number = .ok (docTexts (lines.extract start number)) := by
  have hremarks : ∀ line ∈ (lines.extract start number).reverse, IsRemark line :=
    fun line hline => h.remarks line (List.mem_reverse.mp hline)
  have hupwards : docUpwards (lines.take number).reverse =
      (docTexts (lines.extract start number)).reverse := by
    rw [← take_append_extract h.start_le, List.reverse_append,
      docUpwards_append_of_isRemark hremarks, h.docUpwards_above hlength, List.append_nil,
      docTexts_reverse]
  unfold docComment
  rw [if_neg (by omega), Int.toNat_natCast, hupwards, List.reverse_reverse]

/-- Lines that agree on a block and on the line above it hold the same block. -/
theorem IsBlock.congr (h : IsBlock lines start number)
    (hsame : ∀ i, start ≤ i + 1 → i < number → other[i]? = lines[i]?) :
    other.extract start number = lines.extract start number ∧ IsBlock other start number := by
  have hle := h.start_le
  have hextract : other.extract start number = lines.extract start number := by
    refine List.ext_getElem? fun i => ?_
    rw [getElem?_extract, getElem?_extract]
    split
    · next hi => exact hsame _ (by omega) hi
    · rfl
  refine ⟨hextract, hle, ?_, ?_⟩
  · unfold RemarksBetween
    rw [hextract]
    exact h.remarks
  · rintro i line rfl hline
    rw [hsame i (by omega) (by omega)] at hline
    exact h.stops i line rfl hline

/-- The comment above a line of a file, or above the end of it, says in the order of the file
what the documentation lines of the longest run of remarks right above say. Only the lines
of this run and the one in front of it are read. -/
theorem docComment_eq_docTexts_of_longest_run (hlength : number ≤ lines.length) :
    ∃ start, IsLeast {k | RemarksBetween lines k number} start ∧
      docComment lines number =
        .ok (((lines.extract start number).filter fun line => IsDocLine line).map docText) ∧
      ∀ other : List String, (∀ i, start ≤ i + 1 → i < number → other[i]? = lines[i]?) →
        docComment other number = docComment lines number := by
  have hruns : ∃ k, RemarksBetween lines k number := ⟨number, remarksBetween_self⟩
  have hleast : IsLeast {k | RemarksBetween lines k number} (Nat.find hruns) :=
    ⟨Nat.find_spec hruns, fun _ hk => Nat.find_min' hruns hk⟩
  have hblock := isBlock_of_isLeast hleast
  refine ⟨_, hleast, docComment_of_isBlock hlength hblock, ?_⟩
  intro other hsame
  obtain ⟨hextract, hother⟩ := hblock.congr hsame
  -- agreement reaches up to the last line above `number`, also where the block is empty
  have hotherLength : number ≤ other.length := by
    by_contra hshort
    have hlast := hsame (number - 1) (by have := hblock.start_le; omega) (by omega)
    rw [List.getElem?_eq_none (by omega), List.getElem?_eq_getElem (by omega)] at hlast
    cases hlast
  rw [docComment_of_isBlock hotherLength hother, docComment_of_isBlock hlength hblock, hextract]

end Block

def mixedBlock : List String :=
  ["#! Of x.", "proc x", "  #! First.\t", "", "# note", "#!", "#!Last.", "proc a"]

/-- Neither what stands above `proc x` nor the definition itself has a part in the comment. -/
theorem docComment_mixedBlock :
    7 ≤ mixedBlock.length ∧ IsLeast {k | RemarksBetween mixedBlock k 7} 2 ∧
      docComment mixedBlock 7 = .ok ["First.", "", "Last."] ∧
      docComment ("end" :: (mixedBlock.extract 1 7 ++ ["pub proc b", "end"])) 7 =
        .ok ["First.", "", "Last."] := by
  have hlength : 7 ≤ mixedBlock.length := by decide
  have hstart : IsLeast {k | RemarksBetween mixedBlock k 7} 2 := by
    have hcode : ∀ k < 2, ¬ RemarksBetween mixedBlock k 7 := by decide +kernel
    have hremarks : RemarksBetween mixedBlock 2 7 := by decide +kernel
    exact ⟨hremarks, fun k hk => Nat.le_of_not_lt fun hlt => hcode k hlt hk⟩
  obtain ⟨start, hleast, hdoc, hsame⟩ := docComment_eq_docTexts_of_longest_run hlength
  cases hleast.unique hstart
  have hread : docComment mixedBlock 7 = .ok ["First.", "", "Last."] :=
    hdoc.trans (by decide +kernel)
  have hagree : ∀ i < 7, 2 ≤ i + 1 →
      ("end" :: (mixedBlock.extract 1 7 ++ ["pub proc b", "end"]))[i]? = mixedBlock[i]? := by
    decide +kernel
  exact ⟨hlength, hstart, hread,
    (hsame _ fun i hlow hhigh => hagree i hhigh hlow).trans hread⟩

end AsmNavigator.Source
