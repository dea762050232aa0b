import AsmNavigator.Proofs.Data.OrderedMap
import AsmNavigator.Source.Read
import AsmNavigator.Source.Summary
import Mathlib.Algebra.GroupWithZero.Nat

/-! # A file has at most as many re-exports as bytes

Decoding makes at most one character of a byte, cutting a text into lines adds no
characters, and each line that declares a re-export has at least one.
-/

namespace AsmNavigator

/-! ## Characters and bytes -/

namespace Text

theorem length_ofList_le_utf8ByteSize (cs : List Char) :
    cs.length ≤ (String.ofList cs).utf8ByteSize := by
  induction cs with
  | nil => simp
  | cons c rest ih =>
      have hc := c.utf8Size_pos
      rw [← List.singleton_append, String.ofList_append, String.utf8ByteSize_append]
      simp only [List.length_append, List.length_singleton]
      have hone : (String.ofList [c]).utf8ByteSize = c.utf8Size := by
        simp
      omega

theorem length_le_utf8ByteSize (s : String) : s.length ≤ s.utf8ByteSize := by
  have h := length_ofList_le_utf8ByteSize s.toList
  rwa [String.ofList_toList, String.length_toList] at h

namespace Utf8

theorem length_toList_loop (bytes : ByteArray) (i : Nat) (r : List UInt8) :
    (ByteArray.toList.loop bytes i r).length = (bytes.size - i) + r.length := by
  fun_induction ByteArray.toList.loop bytes i r with
  | case1 i r h ih =>
      rw [ih]
      simp only [List.length_cons]
      omega
  | case2 i r h =>
      simp only [List.length_reverse]
      omega

theorem length_decodeList_le (bytes : List UInt8) : (decodeList bytes).length ≤ bytes.length := by
  fun_induction decodeList bytes with
  | case1 => simp
  | case2 lead bytes character ih =>
      have hrest := step_rest_length_le lead bytes
      simp only [List.length_cons]
      omega

theorem length_decode_le (bytes : ByteArray) : (decode bytes).length ≤ bytes.size := by
  unfold decode
  split
  · next s hs =>
      unfold String.fromUTF8? at hs
      split at hs
      · cases hs
        exact length_le_utf8ByteSize _
      · cases hs
  · have hlist := length_decodeList_le bytes.toList
    have hloop := length_toList_loop bytes 0 []
    rw [String.length_ofList]
    simp only [ByteArray.toList, List.length_nil] at hlist hloop ⊢
    omega

end Utf8

/-! ## Lines -/

theorem length_foldLineEnds_le (cs : List Char) : (foldLineEnds cs).length ≤ cs.length := by
  fun_induction foldLineEnds cs with
  | case1 => simp
  | case2 rest ih =>
      simp only [List.length_cons]
      omega
  | case3 rest _ ih =>
      simp only [List.length_cons]
      omega
  | case4 c rest _ _ ih =>
      simp only [List.length_cons]
      omega

theorem sum_length_consHead (c : Char) (pieces : List (List Char)) :
    ((consHead c pieces).map List.length).sum = (pieces.map List.length).sum + 1 := by
  cases pieces with
  | nil => simp [consHead]
  | cons piece rest =>
      simp only [consHead, List.map_cons, List.sum_cons, List.length_cons]
      omega

theorem sum_length_splitOn_le (sep : Char) (cs : List Char) :
    ((splitOn sep cs).map List.length).sum ≤ cs.length := by
  induction cs with
  | nil => simp [splitOn]
  | cons c rest ih =>
      unfold splitOn
      split
      · simp only [List.map_cons, List.sum_cons, List.length_nil, List.length_cons]
        omega
      · rw [sum_length_consHead]
        simp only [List.length_cons]
        omega

theorem length_dropReturns_le (line : List Char) : (dropReturns line).length ≤ line.length := by
  have h := (List.dropWhile_sublist (fun c => c == '\r') (l := line.reverse)).length_le
  simpa [dropReturns] using h

theorem sum_length_diskLines_le (s : String) :
    ((diskLines s).map String.length).sum ≤ s.length := by
  have hfold := length_foldLineEnds_le s.toList
  have hsplit := sum_length_splitOn_le '\n' (foldLineEnds s.toList)
  have hlines : ∀ pieces : List (List Char),
      ((pieces.map fun line => String.ofList (dropReturns line)).map String.length).sum ≤
        (pieces.map List.length).sum := by
    intro pieces
    induction pieces with
    | nil => simp
    | cons piece rest ih =>
        have hpiece := length_dropReturns_le piece
        simp only [List.map_cons, List.sum_cons, String.length_ofList] at ih ⊢
        omega
  have h := hlines (splitOn '\n' (foldLineEnds s.toList))
  rw [String.length_toList] at hfold
  unfold diskLines lines
  omega

end Text

/-! ## Re-exports -/

namespace Source.Summary

theorem reexports_addLine (s : Summary) (number : Nat) (line : String) :
    (s.addLine number line).reexports =
      match renaming? line.toList with
      | none => s.reexports
      | some r => s.reexports.insert r.exported ⟨r.moduleName, r.declared, number⟩ := by
  simp only [addLine]
  cases import? line.toList <;> cases renaming? line.toList <;>
    cases procedureName? line.toList <;> cases constantName? line.toList <;> rfl

theorem size_reexports_addLine_le (s : Summary) (number : Nat) (line : String) :
    (s.addLine number line).reexports.size ≤ s.reexports.size + line.length := by
  rw [reexports_addLine]
  cases hrenaming : renaming? line.toList with
  | none => simp
  | some r =>
      have hline : 0 < line.length := by
        rw [← String.length_toList]
        cases hcs : line.toList with
        | nil =>
            rw [hcs] at hrenaming
            cases hrenaming
        | cons c rest => simp
      have hinsert := s.reexports.size_insert_le r.exported ⟨r.moduleName, r.declared, number⟩
      simp only
      omega

theorem size_reexports_addLines_le (s : Summary) (number : Nat) (lines : List String) :
    (s.addLines number lines).reexports.size ≤
      s.reexports.size + (lines.map String.length).sum := by
  induction lines generalizing s number with
  | nil => simp [addLines]
  | cons line rest ih =>
      have hline := size_reexports_addLine_le s number line
      have hrest := ih (s.addLine number line) (number + 1)
      simp only [addLines, List.map_cons, List.sum_cons]
      omega

/-- A file re-exports at most as many names as it has bytes. -/
theorem size_reexports_le_size (bytes : ByteArray) :
    (ofLines (Text.diskLines (Text.Utf8.decode bytes))).reexports.size ≤ bytes.size := by
  have hlines := size_reexports_addLines_le empty 0 (Text.diskLines (Text.Utf8.decode bytes))
  have hdisk := Text.sum_length_diskLines_le (Text.Utf8.decode bytes)
  have hdecode := Text.Utf8.length_decode_le bytes
  have hempty : empty.reexports.size = 0 := rfl
  simp only [ofLines]
  omega

end Source.Summary

end AsmNavigator
