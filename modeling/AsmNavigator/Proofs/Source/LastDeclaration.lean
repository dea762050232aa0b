import AsmNavigator.Proofs.Files.Sound
import AsmNavigator.Proofs.Source.ReexportCount
import Mathlib.Data.List.Induction

/-! # A summary holds the last declaration of each name

For any lines whatever. Each part of a summary is read off the lines from the end: the
last line that declares a name in the sense of that part decides. Only in the imports is
there a second way in, for the modules of re-exports, which never decides where an import
does, wherever the two stand.
-/

namespace AsmNavigator.Source

/-- What the last item that gives something gives, items being numbered from zero. -/
def lastOf (f : α → Nat → Option β) (items : List α) : Option β :=
  items.zipIdx.reverse.findSome? fun item => f item.1 item.2

@[simp] theorem lastOf_nil (f : α → Nat → Option β) : lastOf f [] = none := rfl

@[simp] theorem lastOf_concat (f : α → Nat → Option β) (items : List α) (a : α) :
    lastOf f (items ++ [a]) = (f a items.length).or (lastOf f items) := by
  unfold lastOf
  simp only [List.zipIdx_append, List.zipIdx_singleton, List.reverse_append,
    List.reverse_singleton, List.singleton_append, List.findSome?_cons, Nat.zero_add]
  cases f a items.length <;> rfl

/-- `lastOf` gives what some item gives after which no other gives anything. -/
theorem lastOf_eq_some_iff {f : α → Nat → Option β} {items : List α} {b : β} :
    lastOf f items = some b ↔ ∃ number a, items[number]? = some a ∧ f a number = some b ∧
      ∀ later a', number < later → items[later]? = some a' → f a' later = none := by
  induction items using List.reverseRecOn with
  | nil => simp
  | append_singleton items last ih =>
      rw [lastOf_concat, Option.or_eq_some_iff, ih]
      constructor
      · rintro (hlast | ⟨hlast, number, a, ha, hb, hlater⟩)
        · refine ⟨items.length, last, by simp, hlast, ?_⟩
          intro later a' hlater ha'
          have hbound := (List.getElem?_eq_some_iff.mp ha').1
          simp only [List.length_append, List.length_singleton] at hbound
          omega
        · have hbound := (List.getElem?_eq_some_iff.mp ha).1
          refine ⟨number, a, by rwa [List.getElem?_append_left hbound], hb, ?_⟩
          intro later a' hlt ha'
          by_cases hitems : later < items.length
          · rw [List.getElem?_append_left hitems] at ha'
            exact hlater later a' hlt ha'
          · have hsame : later = items.length := by
              have hbound := (List.getElem?_eq_some_iff.mp ha').1
              simp only [List.length_append, List.length_singleton] at hbound
              omega
            subst hsame
            rw [List.getElem?_concat_length] at ha'
            cases ha'
            exact hlast
      · rintro ⟨number, a, ha, hb, hlater⟩
        by_cases hitems : number < items.length
        · refine .inr ⟨hlater items.length last hitems (by simp), number, a, ?_, hb, ?_⟩
          · rwa [List.getElem?_append_left hitems] at ha
          · intro later a' hlt ha'
            have hbound := (List.getElem?_eq_some_iff.mp ha').1
            exact hlater later a' hlt (by rwa [List.getElem?_append_left hbound])
        · have hsame : number = items.length := by
            have hbound := (List.getElem?_eq_some_iff.mp ha).1
            simp only [List.length_append, List.length_singleton] at hbound
            omega
          subst hsame
          rw [List.getElem?_concat_length] at ha
          cases ha
          exact .inl hb

/-- If some item gives something, there is a last one that does. -/
theorem isSome_lastOf {f : α → Nat → Option β} {items : List α} {number : Nat} {a : α} {b : β}
    (ha : items[number]? = some a) (hb : f a number = some b) :
    (lastOf f items).isSome = true := by
  have hmem : (a, number) ∈ items.zipIdx.reverse :=
    List.mem_reverse.mpr (List.mem_zipIdx_iff_getElem?.mpr ha)
  unfold lastOf
  rw [List.findSome?_isSome_iff]
  exact ⟨(a, number), hmem, by rw [hb]; rfl⟩

theorem lastOf_map (f : β → Nat → Option γ) (g : α → β) (items : List α) :
    lastOf f (items.map g) = lastOf (fun a number => f (g a) number) items := by
  induction items using List.reverseRecOn with
  | nil => rfl
  | append_singleton items a ih =>
      rw [List.map_append, List.map_singleton, lastOf_concat, lastOf_concat, ih, List.length_map]

/-! ## What one line declares of a name -/

def importAs? (name : String) (line : List Char) : Option String :=
  ((import? line).filter fun i => i.lastSegment = name || i.alias? = some name).map Import.path

def reexportsFrom (moduleName : String) (line : List Char) : Bool :=
  (renaming? line).any fun r => r.moduleName = moduleName

def reexportAs? (name : String) (line : List Char) (number : Nat) : Option Reexport :=
  ((renaming? line).filter fun r => r.exported = name).map fun r =>
    ⟨r.moduleName, r.declared, number⟩

def numberIf (declared? : List Char → Option (List Char × List Char)) (name : String)
    (line : List Char) (number : Nat) : Option Nat :=
  if (declared? line).map (String.ofList ·.1) = some name then some number else none

namespace Summary

/-! ## One more line -/

theorem addLines_append (s : Summary) (number : Nat) (lines more : List String) :
    s.addLines number (lines ++ more) =
      (s.addLines number lines).addLines (number + lines.length) more := by
  induction lines generalizing s number with
  | nil => rfl
  | cons line rest ih =>
      rw [List.cons_append, addLines, ih, addLines, List.length_cons, Nat.add_assoc,
        Nat.add_comm 1]

theorem ofLines_concat (lines : List String) (line : String) :
    ofLines (lines ++ [line]) = (ofLines lines).addLine lines.length line := by
  rw [ofLines, addLines_append, Nat.zero_add]
  rfl

variable (s : Summary) (number : Nat) (line : String)

theorem get?_imports_addImport (i : Import) (name : String) :
    (s.addImport i).imports.get? name =
      if i.lastSegment = name || i.alias? = some name then some i.path
      else s.imports.get? name := by
  unfold addImport
  cases i.alias? with
  | none => simp
  | some given =>
      simp only [OrderedMap.get?_insert, Option.some.injEq, Bool.or_eq_true, decide_eq_true_eq]
      by_cases hgiven : given = name <;> simp [hgiven]

theorem get?_imports_addLine (name : String) :
    (s.addLine number line).imports.get? name =
      ((importAs? name line.toList).or (s.imports.get? name)).or
        (if reexportsFrom name line.toList then some name else none) := by
  have hparts : (s.addLine number line).imports =
      (addIf (addReexport · number) (addIf addImport s (import? line.toList))
        (renaming? line.toList)).imports := by
    simp only [addLine]
    cases procedureName? line.toList <;> cases constantName? line.toList <;> rfl
  have himport : (addIf addImport s (import? line.toList)).imports.get? name =
      (importAs? name line.toList).or (s.imports.get? name) := by
    unfold importAs?
    cases import? line.toList with
    | none => rfl
    | some i =>
        rw [addIf, get?_imports_addImport, Option.filter_some]
        split <;> rfl
  rw [hparts, ← himport]
  unfold reexportsFrom
  cases renaming? line.toList with
  | none => simp [addIf]
  | some r =>
      simp only [addIf, addReexport, OrderedMap.get?_insertIfNew, Option.any_some,
        decide_eq_true_eq]
      by_cases hname : r.moduleName = name <;> simp [hname]

theorem get?_reexports_addLine (name : String) :
    (s.addLine number line).reexports.get? name =
      (reexportAs? name line.toList number).or (s.reexports.get? name) := by
  rw [reexports_addLine]
  unfold reexportAs?
  cases renaming? line.toList with
  | none => rfl
  | some r =>
      simp only [OrderedMap.get?_insert, Option.filter_some, decide_eq_true_eq]
      split <;> rfl

theorem get?_procedures_addLine (name : String) :
    (s.addLine number line).procedures.get? name =
      (numberIf procedureName? name line.toList number).or (s.procedures.get? name) := by
  have hparts : (s.addLine number line).procedures =
      (addIf (addProcedure · number) s ((procedureName? line.toList).map (·.1))).procedures := by
    simp only [addLine]
    cases import? line.toList <;> cases renaming? line.toList <;>
      cases procedureName? line.toList <;> cases constantName? line.toList <;> rfl
  rw [hparts]
  unfold numberIf
  cases procedureName? line.toList with
  | none => rfl
  | some found =>
      simp only [Option.map_some, addIf, addProcedure, OrderedMap.get?_insert, Option.some.injEq]
      split <;> rfl

theorem get?_constants_addLine (name : String) :
    (s.addLine number line).constants.get? name =
      (numberIf constantName? name line.toList number).or (s.constants.get? name) := by
  have hparts : (s.addLine number line).constants =
      (addIf (addConstant · number) s ((constantName? line.toList).map (·.1))).constants := by
    simp only [addLine]
    cases import? line.toList <;> cases renaming? line.toList <;>
      cases procedureName? line.toList <;> cases constantName? line.toList <;> rfl
  rw [hparts]
  unfold numberIf
  cases constantName? line.toList with
  | none => rfl
  | some found =>
      simp only [Option.map_some, addIf, addConstant, OrderedMap.get?_insert, Option.some.injEq]
      split <;> rfl

/-! ## All lines -/

variable (lines : List String) (name : String)

theorem get?_imports_ofLines :
    (ofLines lines).imports.get? name =
      (lastOf (fun line _ => importAs? name line.toList) lines).or
        (if lines.any (reexportsFrom name ·.toList) then some name else none) := by
  induction lines using List.reverseRecOn with
  | nil => rfl
  | append_singleton lines line ih =>
      rw [ofLines_concat, get?_imports_addLine, ih, lastOf_concat, List.any_append]
      cases importAs? name line.toList <;>
        cases lastOf (fun line _ => importAs? name line.toList) lines <;>
        cases lines.any (reexportsFrom name ·.toList) <;>
        cases hlast : reexportsFrom name line.toList <;> simp [hlast]

/-- A part of the summary in which every line overrides those before it. -/
theorem ofLines_eq_lastOf (part : Summary → Option β) {f : String → Nat → Option β}
    (hempty : part empty = none)
    (hline : ∀ s number line, part (s.addLine number line) = (f line number).or (part s)) :
    part (ofLines lines) = lastOf f lines := by
  induction lines using List.reverseRecOn with
  | nil => exact hempty
  | append_singleton lines line ih => rw [ofLines_concat, hline, ih, lastOf_concat]

theorem get?_reexports_ofLines :
    (ofLines lines).reexports.get? name =
      lastOf (fun line => reexportAs? name line.toList) lines :=
  ofLines_eq_lastOf lines (·.reexports.get? name) rfl
    fun s number line => get?_reexports_addLine s number line name

theorem get?_procedures_ofLines :
    (ofLines lines).procedures.get? name =
      lastOf (fun line => numberIf procedureName? name line.toList) lines :=
  ofLines_eq_lastOf lines (·.procedures.get? name) rfl
    fun s number line => get?_procedures_addLine s number line name

theorem get?_constants_ofLines :
    (ofLines lines).constants.get? name =
      lastOf (fun line => numberIf constantName? name line.toList) lines :=
  ofLines_eq_lastOf lines (·.constants.get? name) rfl
    fun s number line => get?_constants_addLine s number line name

end Summary

end AsmNavigator.Source
