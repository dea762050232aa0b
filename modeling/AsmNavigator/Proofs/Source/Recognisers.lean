import AsmNavigator.Proofs.Source.ImportShape

/-! # What the recognisers take from a text

A recogniser takes a fixed text, a run of characters or blanks from the front. What it
takes and what it leaves make up the text it was given, and where the next character
stops a run, the recogniser takes exactly that run. A scan looks for something at every
place; what it finds in the pieces of a text it finds in the text.
-/

namespace AsmNavigator

/-! ## Fixed texts -/

namespace Text

@[simp] theorem dropPrefix?_append (part rest : List Char) :
    dropPrefix? part (part ++ rest) = some rest := by
  induction part with
  | nil => rfl
  | cons p part ih => simp [dropPrefix?, ih]

theorem dropPrefix?_eq_some_iff {part cs rest : List Char} :
    dropPrefix? part cs = some rest ↔ cs = part ++ rest := by
  constructor
  · intro h
    induction part generalizing cs with
    | nil => simpa [dropPrefix?] using h
    | cons p part ih =>
        cases cs with
        | nil => simp [dropPrefix?] at h
        | cons c cs =>
            simp only [dropPrefix?] at h
            split at h
            · next hp => rw [hp, ih h, List.cons_append]
            · cases h
  · rintro rfl
    exact dropPrefix?_append part rest

@[simp] theorem dropSuffix?_append (part cs : List Char) :
    dropSuffix? part (cs ++ part) = some cs := by
  simp [dropSuffix?]

/-! ## Scans -/

/-- What a scan finds in a text, whatever follows the text. -/
def Yields (matchAt : List Char → Option (β × Nat)) (cs : List Char) (found : List β) : Prop :=
  ∀ position rest, findAllFrom (fun _ => matchAt) position 0 (cs ++ rest) =
    found ++ findAllFrom (fun _ => matchAt) (position + cs.length) 0 rest

theorem findAllFrom_skip (matchAt : Nat → List Char → Option (β × Nat)) (position : Nat)
    (cs rest : List Char) :
    findAllFrom matchAt position cs.length (cs ++ rest) =
      findAllFrom matchAt (position + cs.length) 0 rest := by
  induction cs generalizing position with
  | nil => rfl
  | cons c cs ih =>
      rw [List.length_cons, List.cons_append, findAllFrom, ih, Nat.add_comm cs.length 1,
        ← Nat.add_assoc]

namespace Yields

variable {matchAt : List Char → Option (β × Nat)} {c : Char} {cs more : List Char}
  {found others : List β}

theorem nil : Yields matchAt [] [] := fun _ _ => rfl

theorem cons (h : ∀ rest, matchAt (c :: cs ++ rest) = none) (hcs : Yields matchAt cs found) :
    Yields matchAt (c :: cs) found := by
  intro position rest
  have hmiss := h rest
  rw [List.cons_append] at hmiss ⊢
  rw [findAllFrom, hmiss, List.length_cons, Nat.add_comm cs.length 1, ← Nat.add_assoc]
  exact hcs (position + 1) rest

theorem hit {occurrence : β} (hne : cs ≠ [])
    (h : ∀ rest, matchAt (cs ++ rest) = some (occurrence, cs.length)) :
    Yields matchAt cs [occurrence] := by
  intro position rest
  obtain ⟨c, cs, rfl⟩ := List.exists_cons_of_ne_nil hne
  have hmatch := h rest
  rw [List.cons_append] at hmatch
  rw [List.cons_append, findAllFrom, hmatch]
  simp only [List.length_cons, Nat.add_sub_cancel]
  rw [findAllFrom_skip, Nat.add_comm cs.length 1, ← Nat.add_assoc]
  rfl

theorem append (hcs : Yields matchAt cs found) (hmore : Yields matchAt more others) :
    Yields matchAt (cs ++ more) (found ++ others) := by
  intro position rest
  rw [List.append_assoc, hcs, hmore, List.append_assoc, List.length_append, Nat.add_assoc]

theorem findAll_eq (h : Yields matchAt cs found) : findAll (fun _ => matchAt) cs = found := by
  have hall := h 0 []
  rw [List.append_nil] at hall
  rw [findAll, hall, findAllFrom, List.append_nil]

/-- Nothing is found in the separators of a joined text, so what is found in the pieces is
found in the whole. -/
theorem intercalate {separator : List Char} {write : ι → List Char} {found? : ι → Option β}
    (hseparator : Yields matchAt separator [])
    (h : ∀ piece, Yields matchAt (write piece) (found? piece).toList) (pieces : List ι) :
    Yields matchAt (separator.intercalate (pieces.map write)) (pieces.filterMap found?) := by
  have hsplit : ∀ piece pieces, (piece :: pieces).filterMap found? =
      (found? piece).toList ++ pieces.filterMap found? := by
    intro piece pieces
    cases hpiece : found? piece <;> simp [hpiece]
  induction pieces with
  | nil => exact nil
  | cons first rest ih =>
      rw [hsplit]
      cases rest with
      | nil => simpa using h first
      | cons second rest =>
          rw [List.map_cons, List.map_cons, List.intercalate_cons_cons,
            ← List.append_nil (found? first).toList]
          exact ((h first).append hseparator).append ih

end Yields

end Text

namespace Source

open Text

/-! ## Runs of characters -/

theorem takeWhile_append_stop {p : Char → Bool} {run rest : List Char}
    (hrun : ∀ c ∈ run, p c = true) (hrest : ∀ c ∈ rest.head?, p c = false) :
    (run ++ rest).takeWhile p = run := by
  rw [List.takeWhile_append_of_pos hrun]
  cases rest with
  | nil => simp
  | cons c rest => simp [hrest c rfl]

theorem dropWhile_append_stop {p : Char → Bool} {run rest : List Char}
    (hrun : ∀ c ∈ run, p c = true) (hrest : ∀ c ∈ rest.head?, p c = false) :
    (run ++ rest).dropWhile p = rest := by
  rw [List.dropWhile_append_of_pos hrun]
  cases rest with
  | nil => rfl
  | cons c rest => simp [hrest c rfl]

theorem takeRun?_append {start continues : Char → Bool} {c : Char} {tail rest : List Char}
    (hc : start c = true) (htail : ∀ d ∈ tail, continues d = true)
    (hrest : ∀ d ∈ rest.head?, continues d = false) :
    takeRun? start continues (c :: tail ++ rest) = some (c :: tail, rest) := by
  simp only [List.cons_append, takeRun?, hc, if_true, takeWhile_append_stop htail hrest,
    dropWhile_append_stop htail hrest]

theorem eq_append_of_takeRun? {start continues : Char → Bool} {cs name rest : List Char}
    (h : takeRun? start continues cs = some (name, rest)) : cs = name ++ rest := by
  cases cs with
  | nil => cases h
  | cons c cs =>
      simp only [takeRun?] at h
      split at h
      · cases h
        rw [List.cons_append, List.takeWhile_append_dropWhile]
      · cases h

/-- A run goes on as long as it can. -/
theorem stops_of_takeRun? {start continues : Char → Bool} {cs name rest : List Char}
    (h : takeRun? start continues cs = some (name, rest)) :
    ∀ c ∈ rest.head?, continues c = false := by
  cases cs with
  | nil => cases h
  | cons first cs =>
      simp only [takeRun?] at h
      split at h
      · cases h
        intro c hc
        have hstop := List.head?_dropWhile_not continues cs
        rw [Option.mem_def.mp hc] at hstop
        exact hstop
      · cases h

theorem takeIdent?_append {name rest : List Char} (hname : IsIdent name)
    (hrest : ∀ d ∈ rest.head?, isIdentChar d = false) :
    takeIdent? (name ++ rest) = some (name, rest) := by
  obtain ⟨c, tail, rfl, hc, htail⟩ := hname
  exact takeRun?_append hc htail hrest

theorem eq_append_of_takeIdent? {cs name rest : List Char}
    (h : takeIdent? cs = some (name, rest)) : cs = name ++ rest :=
  eq_append_of_takeRun? h

/-! ## Keywords -/

/-- No keyword stands in a run without blanks that ends with a character that is not in it. -/
theorem afterKeyword?_eq_none {word : String} {run rest : List Char} {stop : Char}
    (hrun : ∀ c ∈ run, isBlank c = false) (hstop : stop ∉ word.toList)
    (hblank : isBlank stop = false) : afterKeyword? word (run ++ stop :: rest) = none := by
  rw [Option.eq_none_iff_forall_ne_some]
  intro found hfound
  obtain ⟨after, hafter, hskip⟩ := Option.bind_eq_some_iff.mp hfound
  obtain ⟨blank, more, rfl, hb⟩ : ∃ blank more, after = blank :: more ∧ isBlank blank = true := by
    cases after with
    | nil => cases hskip
    | cons blank more =>
        simp only [skipBlanks?] at hskip
        split at hskip
        · next hb => exact ⟨blank, more, rfl, hb⟩
        · cases hskip
  -- Either the run ends before the blank, and its stop is in the keyword, or it holds the blank.
  rcases List.append_eq_append_iff.mp (dropPrefix?_eq_some_iff.mp hafter) with
    ⟨middle, hword, htail⟩ | ⟨middle, hlong, htail⟩
  · cases middle with
    | nil =>
        obtain ⟨rfl, -⟩ := List.cons.inj htail
        rw [hblank] at hb
        cases hb
    | cons first middle =>
        obtain ⟨rfl, -⟩ := List.cons.inj htail
        exact hstop (by simp [hword])
  · cases middle with
    | nil =>
        obtain ⟨rfl, -⟩ := List.cons.inj htail
        rw [hblank] at hb
        cases hb
    | cons first middle =>
        obtain ⟨rfl, -⟩ := List.cons.inj htail
        rw [hrun blank (by simp [hlong])] at hb
        cases hb

end Source

end AsmNavigator
