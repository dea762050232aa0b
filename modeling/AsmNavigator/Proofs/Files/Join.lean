import AsmNavigator.Files.Path

/-! # Joining paths and names

A path that was read from a text is what its own text denotes. A plain name is one
component. Joining a path with plain names, or with the text of several plain names between
slashes, adds these names as components.
-/

namespace AsmNavigator

namespace Text

theorem splitOn_of_not_mem {sep : Char} {cs : List Char} (h : sep ∉ cs) :
    splitOn sep cs = [cs] := by
  induction cs with
  | nil => rfl
  | cons c rest ih =>
      have hc : c ≠ sep := fun heq => h (by simp [heq])
      have hrest : sep ∉ rest := fun hmem => h (List.mem_cons_of_mem _ hmem)
      simp [splitOn, hc, ih hrest, consHead]

theorem splitOn_append {sep : Char} {piece : List Char} (h : sep ∉ piece) (rest : List Char) :
    splitOn sep (piece ++ sep :: rest) = piece :: splitOn sep rest := by
  induction piece with
  | nil => simp [splitOn]
  | cons c piece ih =>
      have hc : c ≠ sep := fun heq => h (by simp [heq])
      have hpiece : sep ∉ piece := fun hmem => h (List.mem_cons_of_mem _ hmem)
      simp [splitOn, hc, ih hpiece, consHead]

/-- Splitting undoes joining if no piece holds the separator. -/
theorem splitOn_intercalate {sep : Char} {pieces : List (List Char)} (hne : pieces ≠ [])
    (h : ∀ piece ∈ pieces, sep ∉ piece) : splitOn sep ([sep].intercalate pieces) = pieces := by
  induction pieces with
  | nil => exact absurd rfl hne
  | cons piece rest ih =>
      have hpiece : sep ∉ piece := h piece (by simp)
      cases rest with
      | nil => simpa using splitOn_of_not_mem hpiece
      | cons next rest =>
          have hrest := ih (by simp) (fun p hp => h p (List.mem_cons_of_mem _ hp))
          rw [List.intercalate_cons_cons]
          simp only [List.append_assoc, List.singleton_append]
          rw [splitOn_append hpiece, hrest]

theorem not_mem_of_mem_splitOn {sep : Char} {cs piece : List Char} (h : piece ∈ splitOn sep cs) :
    sep ∉ piece := by
  induction cs generalizing piece with
  | nil =>
      cases List.mem_singleton.mp h
      simp
  | cons c rest ih =>
      unfold splitOn at h
      split at h
      · rcases List.mem_cons.mp h with rfl | h
        · simp
        · exact ih h
      · next hc =>
          cases hsplit : splitOn sep rest with
          | nil => exact absurd hsplit (splitOn_ne_nil sep rest)
          | cons first pieces =>
              rw [hsplit] at h ih
              rcases List.mem_cons.mp h with rfl | h
              · rw [List.mem_cons, not_or]
                exact ⟨fun heq => hc heq.symm, ih List.mem_cons_self⟩
              · exact ih (List.mem_cons_of_mem _ h)

theorem map_ofList_toList (texts : List String) :
    (texts.map String.toList).map String.ofList = texts := by
  rw [List.map_map]
  exact List.map_id'' (fun s => String.ofList_toList) texts

end Text

/-- A name that is one component and neither stays nor climbs. -/
structure IsPlainName (name : String) : Prop where
  nonempty : name ≠ ""
  noSlash : '/' ∉ name.toList
  notHere : name ≠ "."
  notUp : name ≠ ".."

namespace Path

def below (p : Path) (parts : List String) : Path := { p with parts := p.parts ++ parts }

@[simp] theorem below_root (p : Path) (parts : List String) : (p.below parts).root = p.root := rfl

@[simp] theorem below_parts (p : Path) (parts : List String) :
    (p.below parts).parts = p.parts ++ parts := rfl

@[simp] theorem below_nil (p : Path) : p.below [] = p := by
  simp [below]

theorem below_below (p : Path) (first second : List String) :
    (p.below first).below second = p.below (first ++ second) := by
  simp [below]

theorem isKept_toList {name : String} (h : IsPlainName name) : isKept name.toList = true := by
  have hnonempty : name.toList ≠ [] := fun heq => h.nonempty (String.toList_eq_nil_iff.mp heq)
  have hdot : name.toList ≠ ['.'] := by
    intro heq
    apply h.notHere
    rw [← String.ofList_toList (s := name), heq]
  simp [isKept, hnonempty, hdot]

/-! ## Paths and their text -/

/-- Every component is one that a text can have between its slashes. -/
def IsClean (p : Path) : Prop := ∀ part ∈ p.parts, isKept part.toList = true ∧ '/' ∉ part.toList

theorem isClean_ofString (s : String) : (ofString s).IsClean := by
  intro part hpart
  obtain ⟨piece, hpiece, rfl⟩ := List.mem_map.mp hpart
  obtain ⟨hsplit, hkept⟩ := List.mem_filter.mp hpiece
  rw [String.toList_ofList]
  exact ⟨hkept, Text.not_mem_of_mem_splitOn hsplit⟩

theorem isClean_relative {parts : List String} (h : ∀ part ∈ parts, IsPlainName part) :
    (relative parts).IsClean :=
  fun part hpart => ⟨isKept_toList (h part hpart), (h part hpart).noSlash⟩

/-- The components of a clean path, joined by slashes, begin with none. -/
theorem IsClean.takeWhile_slash {p : Path} (h : p.IsClean) :
    (String.intercalate "/" p.parts).toList.takeWhile (· == '/') = [] := by
  rw [String.toList_intercalate]
  cases hparts : p.parts with
  | nil => rfl
  | cons first rest =>
      obtain ⟨hkept, hslash⟩ := h first (by simp [hparts])
      cases hcs : first.toList with
      | nil =>
          rw [hcs] at hkept
          cases hkept
      | cons c cs =>
          have hc : c ≠ '/' := fun heq => hslash (by simp [hcs, heq])
          cases rest with
          | nil => simp [hcs, hc]
          | cons next rest => simp [hcs, hc]

/-- Reading the joined components gives the components back. -/
theorem IsClean.filter_splitOn {p : Path} (h : p.IsClean) :
    (Text.splitOn '/' (String.intercalate "/" p.parts).toList).filter isKept =
      p.parts.map String.toList := by
  rw [String.toList_intercalate]
  by_cases hparts : p.parts = []
  · rw [hparts]
    rfl
  · have hpieces : ∀ piece ∈ p.parts.map String.toList, isKept piece = true ∧ '/' ∉ piece := by
      intro piece hpiece
      obtain ⟨part, hpart, rfl⟩ := List.mem_map.mp hpiece
      exact h part hpart
    have hsplit : Text.splitOn '/' (['/'].intercalate (p.parts.map String.toList)) =
        p.parts.map String.toList :=
      Text.splitOn_intercalate (by simpa using hparts) fun piece hpiece => (hpieces piece hpiece).2
    have hkept := List.filter_eq_self.mpr fun piece hpiece => (hpieces piece hpiece).1
    exact (congrArg (List.filter isKept) hsplit).trans hkept

/-- A clean path is what its text denotes. -/
theorem ofString_toString {p : Path} (h : p.IsClean) : ofString p.toString = p := by
  obtain ⟨root, parts⟩ := p
  have hslash := h.takeWhile_slash
  have hparts := h.filter_splitOn
  simp only at hslash hparts
  have hkept : ∀ rest : List (List Char), ([] :: rest).filter isKept = rest.filter isKept :=
    fun rest => rfl
  cases root with
  | none =>
      by_cases hempty : parts = []
      · subst hempty
        rfl
      · have htext : toString ⟨.none, parts⟩ = String.intercalate "/" parts := by
          simp [toString, hempty, rootText]
        rw [htext, ofString, hslash, hparts, Text.map_ofList_toList]
        rfl
  | slash =>
      have htext : (toString ⟨.slash, parts⟩).toList =
          '/' :: (String.intercalate "/" parts).toList := by
        simp [toString, rootText]
      simp only [ofString, htext]
      simp only [List.takeWhile_cons, beq_self_eq_true, if_true, hslash, Text.splitOn, hkept,
        hparts, Text.map_ofList_toList]
      rfl
  | doubleSlash =>
      have htext : (toString ⟨.doubleSlash, parts⟩).toList =
          '/' :: '/' :: (String.intercalate "/" parts).toList := by
        simp [toString, rootText]
      simp only [ofString, htext]
      simp only [List.takeWhile_cons, beq_self_eq_true, if_true, hslash, Text.splitOn, hkept,
        hparts, Text.map_ofList_toList]
      rfl

/-- The text of plain names between slashes is the relative path of these names. -/
theorem ofString_intercalate {parts : List String} (hne : parts ≠ [])
    (h : ∀ part ∈ parts, IsPlainName part) :
    ofString (String.intercalate "/" parts) = relative parts := by
  have htext : (relative parts).toString = String.intercalate "/" parts := by
    simp [toString, relative, hne, rootText]
  rw [← htext, ofString_toString (isClean_relative h)]

theorem ofString_plain {name : String} (h : IsPlainName name) :
    ofString name = relative [name] := by
  have hjoined : ofString (String.intercalate "/" [name]) = relative [name] :=
    ofString_intercalate (by simp) (by simpa using h)
  simpa using hjoined

theorem div_relative (p : Path) (parts : List String) : p / relative parts = p.below parts := rfl

theorem div_plain (p : Path) {name : String} (h : IsPlainName name) :
    p / name = p.below [name] := by
  show p.append (ofString name) = _
  rw [ofString_plain h]
  rfl

theorem div_intercalate (p : Path) {parts : List String} (hne : parts ≠ [])
    (h : ∀ part ∈ parts, IsPlainName part) :
    p / String.intercalate "/" parts = p.below parts := by
  show p.append (ofString _) = _
  rw [ofString_intercalate hne h]
  rfl

theorem div_empty (p : Path) : p / "" = p.below [] := rfl

end Path

end AsmNavigator
