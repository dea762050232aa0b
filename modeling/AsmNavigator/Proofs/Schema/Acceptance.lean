import AsmNavigator.Proofs.Data.Keys
import AsmNavigator.Schema.Integer

/-! # What a check has accepted

A check of several parts accepts if each part does, and the checks of single settings accept
scalars only.
-/

namespace AsmNavigator.Schema

namespace Check

variable {α β : Type}

theorem seq_eq_valid {first : Check (α → β)} {second : Check α} {b : β} :
    (first <*> second) = .valid b ↔ ∃ f a, first = .valid f ∧ second = .valid a ∧ b = f a := by
  constructor
  · intro h
    cases first with
    | valid f =>
        cases second with
        | valid a =>
            cases h
            exact ⟨f, a, rfl, rfl, rfl⟩
        | invalid issues => cases h
        | faulty fault => cases h
    | invalid issues => cases second <;> cases h
    | faulty fault => cases h
  · rintro ⟨f, a, rfl, rfl, rfl⟩
    rfl

theorem map_eq_valid {f : α → β} {check : Check α} {b : β} :
    (f <$> check) = .valid b ↔ ∃ a, check = .valid a ∧ b = f a := by
  constructor
  · intro h
    cases check with
    | valid a =>
        cases h
        exact ⟨a, rfl, rfl⟩
    | invalid issues => cases h
    | faulty fault => cases h
  · rintro ⟨a, rfl, rfl⟩
    rfl

theorem andThen_eq_valid {check : Check α} {next : α → Check β} {b : β} :
    check.andThen next = .valid b ↔ ∃ a, check = .valid a ∧ next a = .valid b := by
  constructor
  · intro h
    cases check with
    | valid a => exact ⟨a, rfl, h⟩
    | invalid issues => cases h
    | faulty fault => cases h
  · rintro ⟨a, rfl, h⟩
    exact h

theorem under_eq_valid {check : Check α} {name : String} {a : α} :
    check.under name = .valid a ↔ check = .valid a := by
  cases check <;> simp [under]

end Check

variable {α : Type}

theorem record_eq_valid {name : String} {value : Value} {fields : List (Scalar × Value) → Check α}
    {a : α} (h : record name value fields = .valid a) :
    ∃ entries, value.opened = .map entries ∧ fields entries = .valid a := by
  unfold record at h
  split at h
  · next entries hopened => exact ⟨entries, hopened, h⟩
  · cases h

theorem field_eq_valid {entries : List (Scalar × Value)} {name : String} {builtIn a : α}
    {check : Value → Check α} (h : field entries name builtIn check = .valid a) :
    match OrderedMap.find? (.text name) entries with
    | some value => check value = .valid a
    | none => a = builtIn := by
  unfold field at h
  cases hfind : OrderedMap.find? (.text name) entries with
  | none =>
      rw [hfind] at h
      cases h
      rfl
  | some value =>
      rw [hfind] at h
      exact Check.under_eq_valid.mp h

/-! ## Positions -/

theorem map_snd_numbered (items : List α) : (numbered items).map (·.2) = items := by
  have hsnd :
      (fun item : String × α => item.2) ∘ (fun item : α × Nat => (toString item.2, item.1)) =
        Prod.fst := rfl
  rw [numbered, List.map_map, hsnd, List.zipIdx_map_fst]

theorem numbered_map {β : Type} (f : α → β) (items : List α) :
    numbered (items.map f) = (numbered items).map fun item => (item.1, f item.2) := by
  rw [numbered, numbered, List.zipIdx_map, List.map_map, List.map_map]
  rfl

/-! ## Checks of scalars -/

def AcceptsScalars (check : Value → Check α) : Prop :=
  ∀ (value : Value) (a : α), check value = .valid a → ∃ s, value = .scalar s

theorem acceptsScalars_text : AcceptsScalars text := by
  intro value a h
  cases value with
  | scalar s => exact ⟨s, rfl⟩
  | _ => cases h

theorem acceptsScalars_option (options : List (String × α)) : AcceptsScalars (option options) := by
  intro value a h
  cases value with
  | scalar s => exact ⟨s, rfl⟩
  | _ => cases h

theorem acceptsScalars_integer : AcceptsScalars integer := by
  intro value a h
  cases value with
  | scalar s => exact ⟨s, rfl⟩
  | _ => cases h

theorem AcceptsScalars.andThen {β : Type} {check : Value → Check α} (h : AcceptsScalars check)
    (next : Value → α → Check β) :
    AcceptsScalars fun value => (check value).andThen (next value) := by
  intro value b hb
  obtain ⟨a, ha, -⟩ := Check.andThen_eq_valid.mp hb
  exact h value a ha

theorem AcceptsScalars.optional {check : Value → Check α} (h : AcceptsScalars check) :
    AcceptsScalars (Schema.optional check) := by
  intro value a ha
  unfold Schema.optional at ha
  split at ha
  · next hnull =>
      cases value with
      | scalar s => exact ⟨s, rfl⟩
      | _ => cases hnull
  · obtain ⟨b, hb, -⟩ := Check.map_eq_valid.mp ha
    exact h value b hb

end AsmNavigator.Schema
