import AsmNavigator.Proofs.Source.DefinedName

/-! # The parts of an import statement

An import names a module by a path of segments and may give it another name. Each of these
parts stands in the line between characters that belong to no identifier, and nothing
before it begins a comment or a string. So the word at a column inside a part is the part
itself, unless the part is a first segment with a dollar sign.
-/

namespace AsmNavigator.Source

open Text

inductive OpensImport : List Char → Prop
  | intro {indent gap : List Char} (hindent : AreBlank indent) (hgap : IsSeparator gap) :
      OpensImport (indent ++ ("use".toList ++ gap))

inductive IsArrow : List Char → Prop
  | intro {left right : List Char} (hleft : AreBlank left) (hright : AreBlank right) :
      IsArrow (left ++ ("->".toList ++ right))

/-- How an import stands in a line. -/
structure Import.StandsIn (i : Import) (line opening tail : List Char) : Prop where
  opens : OpensImport opening
  line : line = opening ++ (i.path.toList ++ tail)
  ends : ∀ c ∈ tail.head?, isIdentChar c = false
  segments : AreSegments i.segments
  renamed : ∀ name, i.alias? = some name → IsIdent name.toList ∧ ∃ arrow rest, IsArrow arrow ∧
    tail = arrow ++ (name.toList ++ rest) ∧ ∀ c ∈ rest.head?, isIdentChar c = false

/-! ## Reading an import -/

theorem exists_of_takeAlias? {cs name : List Char} (h : takeAlias? cs = some name) :
    IsIdent name ∧ ∃ arrow rest, IsArrow arrow ∧ cs = arrow ++ (name ++ rest) ∧
      ∀ c ∈ rest.head?, isIdentChar c = false := by
  obtain ⟨afterArrow, harrow, hname⟩ := Option.bind_eq_some_iff.mp h
  obtain ⟨⟨taken, rest⟩, htaken, rfl⟩ := Option.map_eq_some_iff.mp hname
  obtain ⟨left, hleft, hcs⟩ := exists_skipOptionalBlanks cs
  obtain ⟨right, hright, hafter⟩ := exists_skipOptionalBlanks afterArrow
  refine ⟨isIdent_of_takeIdent? htaken, _, rest, .intro hleft hright, ?_, stops_of_takeRun? htaken⟩
  rw [hcs, dropPrefix?_eq_some_iff.mp harrow, hafter, eq_append_of_takeIdent? htaken]
  simp

theorem eq_append_of_takeSegments (fuel : Nat) {cs : List Char}
    (hcs : ∀ c ∈ cs.head?, isIdentChar c = false) :
    cs = (takeSegments fuel cs).1.flatMap (fun segment => ':' :: ':' :: segment) ++
        (takeSegments fuel cs).2 ∧
      ∀ c ∈ (takeSegments fuel cs).2.head?, isIdentChar c = false := by
  induction fuel generalizing cs with
  | zero => exact ⟨rfl, hcs⟩
  | succ fuel ih =>
      unfold takeSegments
      cases htake : (dropPrefix? [':', ':'] cs).bind takeIdent? with
      | none => exact ⟨rfl, hcs⟩
      | some taken =>
          obtain ⟨segment, rest⟩ := taken
          obtain ⟨after, hcolons, hsegment⟩ := Option.bind_eq_some_iff.mp htake
          obtain ⟨hrest, hends⟩ := ih (stops_of_takeRun? hsegment)
          refine ⟨?_, hends⟩
          rw [dropPrefix?_eq_some_iff.mp hcolons, eq_append_of_takeIdent? hsegment]
          simp only [List.flatMap_cons, List.cons_append, List.nil_append, List.append_assoc,
            ← hrest]

theorem toList_joinSegments_ofList (head : List Char) (segments : List (List Char)) :
    (joinSegments ((head :: segments).map String.ofList)).toList =
      head ++ segments.flatMap fun segment => ':' :: ':' :: segment := by
  rw [List.map_cons, toList_joinSegments, String.toList_ofList, List.flatMap_map]
  simp only [String.toList_ofList]

theorem Import.exists_standsIn {i : Import} {line : List Char} (h : import? line = some i) :
    ∃ opening tail, i.StandsIn line opening tail := by
  have hareSegments := areSegments_of_import? h
  simp only [import?, Option.bind_eq_bind, Option.bind_eq_some_iff, Option.some.injEq] at h
  obtain ⟨after, huse, ⟨head, rest⟩, hhead, rfl⟩ := h
  obtain ⟨indent, hindent, hline⟩ := exists_skipOptionalBlanks line
  obtain ⟨gap, hgap, hbody⟩ := exists_of_afterKeyword? huse
  obtain ⟨hrest, hends⟩ := eq_append_of_takeSegments rest.length (stops_of_takeRun? hhead)
  simp only at hareSegments ⊢
  generalize takeSegments rest.length rest = taken at hareSegments hrest hends
  refine ⟨_, taken.2, .intro hindent hgap, ?_, hends, hareSegments, ?_⟩
  · unfold Import.path
    rw [toList_joinSegments_ofList, List.append_assoc head, ← hrest, ← eq_append_of_takeRun? hhead,
      hline, hbody]
    simp only [List.append_assoc]
  · intro name hname
    obtain ⟨taken, htaken, rfl⟩ := Option.map_eq_some_iff.mp hname
    rw [String.toList_ofList]
    exact exists_of_takeAlias? htaken

/-! ## Segments and alias in the line -/

/-- The parts of an import statement, each with the text before it. -/
inductive Import.PartAt (i : Import) (line : List Char) : List Char → String → Prop
  | segment {opening tail : List Char} {above below : List String} {part : String}
      (hstands : i.StandsIn line opening tail) (hsegments : i.segments = above ++ part :: below) :
      i.PartAt line
        (opening ++ above.flatMap fun segment => segment.toList ++ "::".toList) part
  | name {opening arrow rest : List Char} {part : String}
      (hstands : i.StandsIn line opening (arrow ++ (part.toList ++ rest)))
      (harrow : IsArrow arrow) (hname : i.alias? = some part)
      (hrest : ∀ c ∈ rest.head?, isIdentChar c = false) :
      i.PartAt line (opening ++ (i.path.toList ++ arrow)) part

/-- Whether a word is one of the segments of an import or its alias. -/
def Import.Mentions (i : Import) (word : String) : Prop :=
  word ∈ i.segments ∨ i.alias? = some word

/-- Every segment and the alias are parts of the line. -/
theorem Import.exists_partAt {i : Import} {line : List Char} (h : import? line = some i) :
    (∀ above part below, i.segments = above ++ part :: below →
      ∃ before, i.PartAt line before part) ∧
    ∀ part, i.alias? = some part → ∃ before, i.PartAt line before part := by
  obtain ⟨opening, tail, hstands⟩ := Import.exists_standsIn h
  constructor
  · intro above part below hsegments
    exact ⟨_, .segment hstands hsegments⟩
  · intro part hpart
    obtain ⟨-, arrow, rest, harrow, rfl, hrest⟩ := hstands.renamed part hpart
    exact ⟨_, .name hstands harrow hpart hrest⟩

theorem toList_joinSegments_cons (head : String) {rest : List String} (hrest : rest ≠ []) :
    (joinSegments (head :: rest)).toList =
      head.toList ++ ("::".toList ++ (joinSegments rest).toList) := by
  cases rest with
  | nil => exact absurd rfl hrest
  | cons next rest =>
      rw [toList_joinSegments, toList_joinSegments, List.flatMap_cons]
      rfl

theorem toList_joinSegments_split (above : List String) (part : String) (below : List String) :
    (joinSegments (above ++ part :: below)).toList =
      (above.flatMap fun segment => segment.toList ++ "::".toList) ++
        (part.toList ++ below.flatMap fun segment => ':' :: ':' :: segment.toList) := by
  induction above with
  | nil => exact toList_joinSegments part below
  | cons head above ih =>
      rw [List.cons_append, toList_joinSegments_cons head (by simp), ih, List.flatMap_cons]
      simp only [List.append_assoc]

theorem OpensImport.endsOutside {opening : List Char} (h : OpensImport opening) :
    EndsOutside opening := by
  obtain ⟨hindent, hgap⟩ := h
  exact (hgap.endsOutside.append _).append _

theorem IsArrow.endsOutside {arrow : List Char} (h : IsArrow arrow) : EndsOutside arrow := by
  cases h with
  | @intro left right hleft hright =>
      refine EndsOutside.append ?_ left
      by_cases hnil : right = []
      · rw [hnil]
        exact ⟨['-'], '>', rfl, by decide⟩
      · have hseparator : IsSeparator right := ⟨hnil, hright⟩
        exact hseparator.endsOutside.append _

theorem OpensImport.isQuiet {opening : List Char} (h : OpensImport opening) :
    IsQuiet opening := by
  obtain ⟨hindent, hgap⟩ := h
  have huse : IsQuiet "use".toList := by decide
  exact hindent.isQuiet.append (huse.append hgap.areBlank.isQuiet)

theorem IsArrow.isQuiet {arrow : List Char} (h : IsArrow arrow) : IsQuiet arrow := by
  obtain ⟨hleft, hright⟩ := h
  have harrow : IsQuiet "->".toList := by decide
  exact hleft.isQuiet.append (harrow.append hright.isQuiet)

theorem IsHead.isQuiet {name : List Char} (h : IsHead name) : IsQuiet name := by
  obtain ⟨first, rest, rfl, hfirst, hrest⟩ := h
  intro c hc
  rcases List.mem_cons.mp hc with rfl | hc
  · constructor
    · rintro rfl
      exact absurd hfirst (by decide)
    · rintro rfl
      exact absurd hfirst (by decide)
  · have hident := hrest c hc
    constructor
    · rintro rfl
      exact absurd hident (by decide)
    · rintro rfl
      exact absurd hident (by decide)

theorem AreSegments.isHead {segments : List String} (h : AreSegments segments) :
    ∀ segment ∈ segments, IsHead segment.toList := by
  cases h with
  | cons hhead hrest =>
      intro segment hsegment
      rcases List.mem_cons.mp hsegment with rfl | hsegment
      · exact hhead
      · exact (hrest segment hsegment).isHead

/-- Segments with colons between them. -/
theorem isQuiet_flatMap {segments : List String}
    (h : ∀ segment ∈ segments, IsHead segment.toList) :
    IsQuiet (segments.flatMap fun segment => segment.toList ++ "::".toList) := by
  have hcolons : IsQuiet "::".toList := by decide
  intro c hc
  obtain ⟨segment, hsegment, hc⟩ := List.mem_flatMap.mp hc
  exact ((h segment hsegment).isQuiet.append hcolons) c hc

theorem AreSegments.isQuiet {segments : List String} (h : AreSegments segments) :
    IsQuiet (joinSegments segments).toList := by
  have hhead := h.isHead
  obtain ⟨front, last, rfl⟩ := (List.eq_nil_or_concat segments).resolve_left h.ne_nil
  rw [List.concat_eq_append] at hhead ⊢
  rw [toList_joinSegments_split, List.flatMap_nil, List.append_nil]
  have hlast : IsHead last.toList := hhead last (by simp)
  exact (isQuiet_flatMap fun s hs => hhead s (List.mem_append_left _ hs)).append hlast.isQuiet

namespace Import.PartAt

variable {i : Import} {line before : List Char} {part : String}

theorem isHead (h : i.PartAt line before part) : IsHead part.toList := by
  cases h with
  | segment hstands hsegments =>
      refine hstands.segments.isHead part ?_
      rw [hsegments]
      exact List.mem_append_right _ (.head _)
  | name hstands harrow hname hrest => exact (hstands.renamed part hname).1.isHead

theorem mentions (h : i.PartAt line before part) : i.Mentions part := by
  cases h with
  | segment hstands hsegments =>
      refine .inl ?_
      rw [hsegments]
      exact List.mem_append_right _ (.head _)
  | name hstands harrow hname hrest => exact .inr hname

theorem isQuiet (h : i.PartAt line before part) : IsQuiet before := by
  cases h with
  | segment hstands hsegments =>
      refine hstands.opens.isQuiet.append (isQuiet_flatMap fun segment hmem => ?_)
      refine hstands.segments.isHead segment ?_
      rw [hsegments]
      exact List.mem_append_left _ hmem
  | name hstands harrow hname hrest =>
      exact hstands.opens.isQuiet.append (hstands.segments.isQuiet.append harrow.isQuiet)

theorem endsOutside (h : i.PartAt line before part) : EndsOutside before := by
  cases h with
  | @segment opening tail above below _ hstands hsegments =>
      rcases List.eq_nil_or_concat above with rfl | ⟨front, last, rfl⟩
      · rw [List.flatMap_nil, List.append_nil]
        exact hstands.opens.endsOutside
      · have hcolons : EndsOutside "::".toList := ⟨[':'], ':', rfl, by decide⟩
        rw [List.concat_eq_append, List.flatMap_append, List.flatMap_singleton]
        exact ((hcolons.append _).append _).append _
  | name hstands harrow hname hrest => exact (harrow.endsOutside.append _).append _

theorem exists_after (h : i.PartAt line before part) :
    ∃ after, line = before ++ (part.toList ++ after) ∧
      ∀ c ∈ after.head?, isIdentChar c = false := by
  cases h with
  | @segment opening tail above below _ hstands hsegments =>
      refine ⟨(below.flatMap fun segment => ':' :: ':' :: segment.toList) ++ tail, ?_, ?_⟩
      · rw [hstands.line, Import.path, hsegments, toList_joinSegments_split]
        simp only [List.append_assoc]
      · cases below with
        | nil => exact hstands.ends
        | cons segment below =>
            intro c hc
            cases hc
            decide
  | @name opening arrow rest _ hstands harrow hname hrest =>
      refine ⟨rest, ?_, hrest⟩
      rw [hstands.line]
      simp only [List.append_assoc]

/-- The word inside a part without a dollar sign is the part. -/
theorem eq_of_inside (h : i.PartAt line before part) (hdollar : part.toList.head? ≠ some '$')
    {w : Word} (hw : IsToken line w) (hlow : before.length ≤ w.start)
    (hhigh : w.stop ≤ before.length + part.length) : w.text = part := by
  have hpart : IsIdent part.toList := h.isHead.isIdent hdollar
  obtain ⟨after, hline, hafter⟩ := h.exists_after
  obtain ⟨front, separator, rfl, -⟩ := h.endsOutside
  have hcut : line = front ++ separator :: (part.toList ++ after) := by
    rw [hline, List.append_assoc]
    rfl
  have hnonempty : 0 < w.text.toList.length := List.length_pos_of_ne_nil hw.isIdent.ne_nil
  rw [hcut] at hw
  rw [List.length_append, List.length_singleton] at hlow hhigh
  rw [String.length_toList] at hnonempty
  unfold Word.stop at hhigh
  refine String.toList_inj.mp (hw.eq_of_inside hpart hafter hlow ?_)
  rw [String.length_toList]
  omega

/-- Nothing before a word inside a part begins a comment or a string. -/
theorem isExcluded_before (h : i.PartAt line before part) {n : Nat}
    (hn : n ≤ before.length + part.length) :
    isExcluded (String.ofList (line.take n)) = false := by
  obtain ⟨after, hline, -⟩ := h.exists_after
  have htake : line.take n = (before ++ part.toList).take n := by
    rw [hline, ← List.append_assoc]
    refine List.take_append_of_le_length ?_
    rwa [List.length_append, String.length_toList]
  have hquiet : IsQuiet (before ++ part.toList) := h.isQuiet.append h.isHead.isQuiet
  rw [htake]
  exact IsQuiet.isExcluded fun c hc => hquiet c (List.mem_of_mem_take hc)

end Import.PartAt

end AsmNavigator.Source
