import AsmNavigator.Schema.Integer

/-! # Properties of all checks

Every check is put together from a few of them. A property that these have and that is kept
when checks are put together is a property of every check of texts, numbers, options, lists,
mappings and records.
-/

namespace AsmNavigator.Schema

/-- Holds of what accepts or refuses at once, and of a check if it holds of its parts. -/
structure Compositional (J : ∀ {α : Type}, Check α → Prop) : Prop where
  valid : ∀ {α : Type} (a : α), J (Check.valid a)
  reject : ∀ {α : Type} (kind : IssueKind) (value : Value), J (Check.reject kind value : Check α)
  map : ∀ {α β : Type} {check : Check α}, J check → ∀ f : α → β, J (check.map f)
  seq : ∀ {α β : Type} {first : Check (α → β)} {second : Check α},
    J first → J second → J (first <*> second)
  andThen : ∀ {α β : Type} {check : Check α} {next : α → Check β},
    J check → (∀ a, J (next a)) → J (check.andThen next)
  under : ∀ {α : Type} {check : Check α}, J check → ∀ name : String, J (check.under name)

namespace Compositional

variable {J : ∀ {α : Type}, Check α → Prop} {α β : Type} (h : Compositional J)
include h

/-! ## Simple types -/

theorem text (value : Value) : J (Schema.text value) := by
  unfold Schema.text
  split
  · exact h.valid _
  · split
    · exact h.valid _
    · exact h.reject _ _
  · exact h.reject _ _

theorem integerText (value : Value) (s : String) : J (Schema.integerText value s) := by
  unfold Schema.integerText
  split
  · exact h.valid _
  · exact h.reject _ _
  · exact h.reject _ _

theorem integer (value : Value) : J (Schema.integer value) := by
  unfold Schema.integer
  split
  · exact h.valid _
  · exact h.valid _
  · split
    · split
      · exact h.reject _ _
      · split
        · exact h.valid _
        · exact h.reject _ _
    · exact h.reject _ _
  · split
    · exact h.reject _ _
    · exact h.integerText _ _
  · split
    · exact h.integerText _ _
    · exact h.reject _ _
  · exact h.reject _ _

theorem option (options : List (String × α)) (value : Value) :
    J (Schema.option options value) := by
  unfold Schema.option
  simp only
  split
  · split
    · exact h.valid _
    · split
      · exact h.reject _ _
      · exact h.reject _ _
  · exact h.reject _ _

theorem optional {check : Value → Check α} (hcheck : ∀ value, J (check value)) (value : Value) :
    J (Schema.optional check value) := by
  unfold Schema.optional
  split
  · exact h.valid _
  · exact h.map (hcheck value) _

/-! ## Collections -/

theorem all {check : α → Check β} (hcheck : ∀ a, J (check a)) (items : List α) :
    J (Check.all check items) := by
  induction items with
  | nil => exact h.valid _
  | cons a rest ih => exact h.seq (h.map (hcheck a) _) ih

theorem list {check : Value → Check α} (hcheck : ∀ value, J (check value)) (value : Value) :
    J (Schema.list check value) := by
  have hitems : ∀ items : List Value,
      J (Check.all (fun item : String × Value => (check item.2).under item.1) (numbered items)) :=
    fun items => h.all (fun item : String × Value => h.under (hcheck item.2) item.1) _
  unfold Schema.list
  simp only
  split
  · exact hitems _
  · exact hitems _
  · exact hitems _
  · exact h.reject _ _

theorem textMap (value : Value) : J (Schema.textMap value) := by
  unfold Schema.textMap
  split
  · refine h.map (h.all (fun entry => ?_) _) _
    exact h.seq (h.map (h.under (h.under (h.text _) _) _) _) (h.under (h.text _) _)
  · exact h.reject _ _

/-! ## Records -/

theorem record {fields : List (Scalar × Value) → Check α} (hfields : ∀ entries, J (fields entries))
    (name : String) (value : Value) : J (Schema.record name value fields) := by
  unfold Schema.record
  split
  · exact hfields _
  · exact h.reject _ _

theorem field {check : Value → Check α} (hcheck : ∀ value, J (check value))
    (entries : List (Scalar × Value)) (name : String) (builtIn : α) :
    J (Schema.field entries name builtIn check) := by
  unfold Schema.field
  cases OrderedMap.find? (.text name) entries with
  | none => exact h.valid _
  | some value => exact h.under (hcheck value) name

theorem requiredField {check : Value → Check α} (hcheck : ∀ value, J (check value))
    (entries : List (Scalar × Value)) (name : String) :
    J (Schema.requiredField entries name check) := by
  unfold Schema.requiredField
  cases OrderedMap.find? (.text name) entries with
  | none => exact h.under (h.reject _ _) name
  | some value => exact h.under (hcheck value) name

end Compositional

end AsmNavigator.Schema
