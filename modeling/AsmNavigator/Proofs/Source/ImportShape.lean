import AsmNavigator.Proofs.Data.OrderedMap
import AsmNavigator.Proofs.Source.Expression
import AsmNavigator.Source.Call
import AsmNavigator.Source.Summary
import Mathlib.Data.List.TakeWhile

/-! # The expressions that sources hold

Whatever a file says, the imports and re-exports of its summary are well-shaped: an import
stands for an import expression, and every re-export and every qualified call names a
module by an identifier.
-/

namespace AsmNavigator

namespace Source

open Text

/-! ## What the recognisers take -/

theorem takeRun?_eq_some {start continues : Char → Bool} {cs name rest : List Char}
    (h : takeRun? start continues cs = some (name, rest)) :
    ∃ c tail, name = c :: tail ∧ start c = true ∧ ∀ d ∈ tail, continues d = true := by
  unfold takeRun? at h
  cases cs with
  | nil => cases h
  | cons c tail =>
      simp only at h
      split at h
      · next hstart =>
          cases h
          exact ⟨c, _, rfl, hstart, fun d hd => List.mem_takeWhile_imp hd⟩
      · cases h

theorem isIdent_of_takeIdent? {cs name rest : List Char} (h : takeIdent? cs = some (name, rest)) :
    IsIdent name :=
  takeRun?_eq_some h

theorem isIdent_of_mem_takeSegments (fuel : Nat) (cs : List Char) :
    ∀ segment ∈ (takeSegments fuel cs).1, IsIdent segment := by
  induction fuel generalizing cs with
  | zero => simp [takeSegments]
  | succ fuel ih =>
      unfold takeSegments
      cases htake : (dropPrefix? [':', ':'] cs).bind takeIdent? with
      | none => simp
      | some taken =>
          obtain ⟨name, rest⟩ := taken
          obtain ⟨after, -, hname⟩ := Option.bind_eq_some_iff.mp htake
          intro segment hsegment
          rcases List.mem_cons.mp hsegment with rfl | hsegment
          · exact isIdent_of_takeIdent? hname
          · exact ih rest segment hsegment

theorem areSegments_of_import? {line : List Char} {i : Import} (h : import? line = some i) :
    AreSegments i.segments := by
  simp only [import?, Option.bind_eq_bind, Option.bind_eq_some_iff, Option.some.injEq] at h
  obtain ⟨after, -, ⟨head, rest⟩, hhead, rfl⟩ := h
  simp only [List.map_cons]
  refine .cons ?_ ?_
  · rw [String.toList_ofList]
    exact takeRun?_eq_some hhead
  · intro segment hsegment
    obtain ⟨name, hname, rfl⟩ := List.mem_map.mp hsegment
    rw [String.toList_ofList]
    exact isIdent_of_mem_takeSegments _ _ name hname

theorem isIdent_of_renaming? {line : List Char} {r : Renaming} (h : renaming? line = some r) :
    IsIdent r.moduleName.toList := by
  simp only [renaming?, Option.bind_eq_bind, Option.bind_eq_some_iff, Option.some.injEq] at h
  obtain ⟨after, -, ⟨name, rest⟩, hname, -, -, -, -, -, -, -, -, rfl⟩ := h
  rw [String.toList_ofList]
  exact isIdent_of_takeIdent? hname

/-- What is found was matched at some position, against the text from there on. -/
theorem mem_findAllFrom {matchAt : Nat → List Char → Option (β × Nat)} {found : β}
    {position skip : Nat} {cs : List Char} (h : found ∈ findAllFrom matchAt position skip cs) :
    ∃ offset length, matchAt (position + offset) (cs.drop offset) = some (found, length) := by
  induction cs generalizing position skip with
  | nil => simp [findAllFrom] at h
  | cons c rest ih =>
      have hlater : ∀ {skip}, found ∈ findAllFrom matchAt (position + 1) skip rest →
          ∃ offset length,
            matchAt (position + offset) ((c :: rest).drop offset) = some (found, length) := by
        intro skip hmem
        obtain ⟨offset, length, hmatch⟩ := ih hmem
        refine ⟨offset + 1, length, ?_⟩
        rwa [List.drop_succ_cons, ← Nat.add_assoc, Nat.add_right_comm]
      cases skip with
      | succ skip => exact hlater h
      | zero =>
          unfold findAllFrom at h
          cases hmatch : matchAt position (c :: rest) with
          | none =>
              rw [hmatch] at h
              exact hlater h
          | some hit =>
              rw [hmatch] at h
              rcases List.mem_cons.mp h with rfl | h
              · exact ⟨0, hit.2, hmatch⟩
              · exact hlater h

theorem isIdent_of_callOfWord? {line : String} {word : Word} {call : QualifiedCall}
    (h : callOfWord? line word = some call) : IsIdent call.moduleName.toList := by
  have hmem : call ∈ qualifiedCalls line := List.mem_of_find?_eq_some h
  obtain ⟨offset, length, hcall⟩ := mem_findAllFrom hmem
  simp only [qualifiedCallAt?, Option.bind_eq_bind, Option.bind_eq_some_iff, Option.some.injEq,
    Prod.mk.injEq] at hcall
  obtain ⟨after, -, ⟨name, rest⟩, hname, -, -, -, -, rfl, -⟩ := hcall
  rw [String.toList_ofList]
  exact isIdent_of_takeIdent? hname

/-! ## Summaries -/

def IsExpression (expression : String) : Prop :=
  ∃ segments, AreSegments segments ∧ expression = joinSegments segments

theorem IsIdent.isExpression {name : String} (h : IsIdent name.toList) : IsExpression name := by
  refine ⟨[name], .cons ?_ (by simp), by simp [joinSegments]⟩
  obtain ⟨c, rest, heq, hstart, hrest⟩ := h
  exact ⟨c, rest, heq, by simp [isHeadStart, hstart], hrest⟩

end Source

namespace Source.Summary

/-- Imports stand for expressions, re-exports name modules by identifiers. -/
structure WellShaped (s : Summary) : Prop where
  imports : ∀ entry ∈ s.imports.entries, IsExpression entry.2
  reexports : ∀ entry ∈ s.reexports.entries, IsIdent entry.2.moduleName.toList

variable {s : Summary}

theorem wellShaped_empty : empty.WellShaped := by
  constructor <;> simp [empty, OrderedMap.empty]

theorem WellShaped.addImport (h : s.WellShaped) {i : Import} (hi : AreSegments i.segments) :
    (s.addImport i).WellShaped := by
  have hpath : IsExpression i.path := ⟨i.segments, hi, rfl⟩
  refine ⟨?_, h.reexports⟩
  intro entry hentry
  have hlast : ∀ entry ∈ (s.imports.insert i.lastSegment i.path).entries,
      IsExpression entry.2 := by
    intro entry hentry
    rcases OrderedMap.mem_entries_insert hentry with hentry | heq
    · exact h.imports entry hentry
    · rw [heq]
      exact hpath
  unfold Summary.addImport at hentry
  cases halias : i.alias? with
  | none =>
      simp only [halias] at hentry
      exact hlast entry hentry
  | some name =>
      simp only [halias] at hentry
      rcases OrderedMap.mem_entries_insert hentry with hentry | heq
      · exact hlast entry hentry
      · rw [heq]
        exact hpath

theorem WellShaped.addReexport (h : s.WellShaped) (number : Nat) {r : Renaming}
    (hr : IsIdent r.moduleName.toList) : (s.addReexport number r).WellShaped := by
  refine ⟨?_, ?_⟩
  · intro entry hentry
    rcases OrderedMap.mem_entries_insertIfNew hentry with hentry | heq
    · exact h.imports entry hentry
    · rw [heq]
      exact hr.isExpression
  · intro entry hentry
    rcases OrderedMap.mem_entries_insert hentry with hentry | heq
    · exact h.reexports entry hentry
    · rw [heq]
      exact hr

theorem WellShaped.addIf (h : s.WellShaped) {change : Summary → α → Summary} {found? : Option α}
    (hchange : ∀ {s : Summary} {a}, found? = some a → s.WellShaped → (change s a).WellShaped) :
    (Summary.addIf change s found?).WellShaped := by
  cases found? with
  | none => exact h
  | some a => exact hchange rfl h

theorem WellShaped.addLine (h : s.WellShaped) (number : Nat) (line : String) :
    (s.addLine number line).WellShaped := by
  simp only [Summary.addLine]
  refine WellShaped.addIf (WellShaped.addIf (WellShaped.addIf (WellShaped.addIf h ?_) ?_) ?_) ?_
  · exact fun hi hs => hs.addImport (areSegments_of_import? hi)
  · exact fun hr hs => hs.addReexport number (isIdent_of_renaming? hr)
  · exact fun _ hs => ⟨hs.imports, hs.reexports⟩
  · exact fun _ hs => ⟨hs.imports, hs.reexports⟩

theorem WellShaped.addLines (h : s.WellShaped) (number : Nat) (lines : List String) :
    (s.addLines number lines).WellShaped := by
  induction lines generalizing s number with
  | nil => exact h
  | cons line rest ih => exact ih (h.addLine number line) (number + 1)

/-- The summary of any lines is well-shaped. -/
theorem wellShaped_ofLines (lines : List String) : (ofLines lines).WellShaped :=
  wellShaped_empty.addLines 0 lines

end Source.Summary

end AsmNavigator
