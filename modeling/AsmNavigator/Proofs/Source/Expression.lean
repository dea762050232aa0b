import AsmNavigator.Proofs.Files.Join
import AsmNavigator.Source.Declaration

/-! # Import expressions

An import expression is a list of identifiers between double colons, of which the first
may begin with a dollar sign. Its segments can be read back from its text, and those
after the first are plain names of files and directories.
-/

namespace AsmNavigator.Source

open Text

/-! ## Reading segments back -/

theorem splitSkipping_of_not_mem {cs : List Char} (h : ':' ∉ cs) :
    splitSkipping [':', ':'] 0 cs = [cs] := by
  induction cs with
  | nil => rfl
  | cons c rest ih =>
      have hc : c ≠ ':' := fun heq => h (by simp [heq])
      have hrest : ':' ∉ rest := fun hmem => h (List.mem_cons_of_mem _ hmem)
      simp [splitSkipping, List.isPrefixOf, Ne.symm hc, ih hrest, consHead]

theorem splitSkipping_append {piece : List Char} (h : ':' ∉ piece) (rest : List Char) :
    splitSkipping [':', ':'] 0 (piece ++ ':' :: ':' :: rest) =
      piece :: splitSkipping [':', ':'] 0 rest := by
  induction piece with
  | nil => simp [splitSkipping, List.isPrefixOf]
  | cons c piece ih =>
      have hc : c ≠ ':' := fun heq => h (by simp [heq])
      have hpiece : ':' ∉ piece := fun hmem => h (List.mem_cons_of_mem _ hmem)
      simp [splitSkipping, List.isPrefixOf, Ne.symm hc, ih hpiece, consHead]

theorem splitSkipping_intercalate {pieces : List (List Char)} (hne : pieces ≠ [])
    (h : ∀ piece ∈ pieces, ':' ∉ piece) :
    splitSkipping [':', ':'] 0 ([':', ':'].intercalate pieces) = pieces := by
  induction pieces with
  | nil => exact absurd rfl hne
  | cons piece rest ih =>
      have hpiece : ':' ∉ piece := h piece (by simp)
      cases rest with
      | nil => simpa using splitSkipping_of_not_mem hpiece
      | cons next rest =>
          have hrest := ih (by simp) (fun p hp => h p (List.mem_cons_of_mem _ hp))
          rw [List.intercalate_cons_cons]
          simp only [List.append_assoc, List.cons_append, List.nil_append]
          rw [splitSkipping_append hpiece, hrest]

/-- Segments without colons are read back from the expression that joins them. -/
theorem splitSegments_joinSegments {segments : List String} (hne : segments ≠ [])
    (h : ∀ segment ∈ segments, ':' ∉ segment.toList) :
    splitSegments (joinSegments segments) = segments := by
  have hpieces : splitSkipping [':', ':'] 0 (joinSegments segments).toList =
      segments.map String.toList := by
    unfold joinSegments
    rw [String.toList_intercalate]
    apply splitSkipping_intercalate (by simpa using hne)
    intro piece hpiece
    obtain ⟨segment, hsegment, rfl⟩ := List.mem_map.mp hpiece
    exact h segment hsegment
  show (splitSkipping [':', ':'] 0 (joinSegments segments).toList).map String.ofList = segments
  rw [hpieces, map_ofList_toList]

/-! ## Identifiers -/

theorem isIdentChar_of_isIdentStart {c : Char} (h : isIdentStart c = true) :
    isIdentChar c = true := by
  simp only [isIdentStart, isIdentChar, Char.isAlphanum, Bool.or_eq_true] at h ⊢
  rcases h with h | h
  · exact .inl (.inl h)
  · exact .inr h

theorem IsIdent.forall_mem {name : List Char} (h : IsIdent name) {c : Char} (hc : c ∈ name) :
    isIdentChar c = true := by
  obtain ⟨first, rest, rfl, hfirst, hrest⟩ := h
  rcases List.mem_cons.mp hc with rfl | hc
  · exact isIdentChar_of_isIdentStart hfirst
  · exact hrest c hc

theorem IsIdent.not_mem {name : List Char} (h : IsIdent name) {c : Char}
    (hc : isIdentChar c = false) : c ∉ name := by
  intro hmem
  rw [h.forall_mem hmem] at hc
  cases hc

/-- An identifier with an extension is a plain name, as long as the extension has no slash. -/
theorem IsIdent.isPlainName_append {name extension : String} (h : IsIdent name.toList)
    (hextension : '/' ∉ extension.toList) : IsPlainName (name ++ extension) := by
  obtain ⟨first, rest, heq, hfirst, -⟩ := id h
  have htoList : (name ++ extension).toList = first :: (rest ++ extension.toList) := by
    rw [String.toList_append, heq, List.cons_append]
  have hdot : first ≠ '.' := by
    rintro rfl
    exact absurd hfirst (by decide)
  refine ⟨?_, ?_, ?_, ?_⟩
  · intro hempty
    rw [hempty] at htoList
    cases htoList
  · rw [String.toList_append, List.mem_append]
    rintro (hmem | hmem)
    · exact h.not_mem (by decide) hmem
    · exact hextension hmem
  · intro hhere
    rw [hhere] at htoList
    exact hdot (List.cons.inj htoList).1.symm
  · intro hup
    rw [hup] at htoList
    exact hdot (List.cons.inj htoList).1.symm

theorem IsIdent.isPlainName {name : String} (h : IsIdent name.toList) : IsPlainName name := by
  have hplain : IsPlainName (name ++ "") := h.isPlainName_append (by simp)
  simpa using hplain

/-! ## The shape of expressions -/

/-- The first segment: an identifier, or one that begins with a dollar sign. -/
def IsHead (name : List Char) : Prop :=
  ∃ c rest, name = c :: rest ∧ isHeadStart c = true ∧ ∀ d ∈ rest, isIdentChar d = true

inductive AreSegments : List String → Prop
  | cons {head : String} {rest : List String} (hhead : IsHead head.toList)
      (hrest : ∀ segment ∈ rest, IsIdent segment.toList) : AreSegments (head :: rest)

theorem AreSegments.ne_nil {segments : List String} (h : AreSegments segments) :
    segments ≠ [] := by
  cases h
  simp

theorem IsHead.not_mem_colon {name : List Char} (h : IsHead name) : ':' ∉ name := by
  obtain ⟨first, rest, rfl, hfirst, hrest⟩ := h
  intro hmem
  rcases List.mem_cons.mp hmem with rfl | hmem
  · exact absurd hfirst (by decide)
  · exact absurd (hrest _ hmem) (by decide)

/-- A head that does not begin with a dollar sign is an identifier. -/
theorem IsHead.isIdent {name : List Char} (h : IsHead name) (hdollar : name.head? ≠ some '$') :
    IsIdent name := by
  obtain ⟨first, rest, rfl, hfirst, hrest⟩ := h
  refine ⟨first, rest, rfl, ?_, hrest⟩
  simp only [isHeadStart, Bool.or_eq_true, beq_iff_eq] at hfirst
  rcases hfirst with hfirst | rfl
  · exact hfirst
  · exact absurd rfl hdollar

theorem AreSegments.split_join {segments : List String} (h : AreSegments segments) :
    splitSegments (joinSegments segments) = segments := by
  apply splitSegments_joinSegments h.ne_nil
  cases h with
  | cons hhead hrest =>
      intro segment hsegment
      rcases List.mem_cons.mp hsegment with rfl | hsegment
      · exact hhead.not_mem_colon
      · exact (hrest segment hsegment).not_mem (by decide)

end AsmNavigator.Source
