import AsmNavigator.Config.Values
import AsmNavigator.Proofs.Data.OrderedMap
import AsmNavigator.Proofs.Schema.Acceptance

/-! # Reading back what is written

Each check is paired with a way to write what it accepts. The check of what is written accepts
it and yields the value that was written, and so does a check that is put together from such
checks.
-/

namespace AsmNavigator.Schema

variable {α β : Type}

/-- What is written for `a` is accepted and stands for `a`. -/
def ReadsBack (check : Value → Check α) (write : α → Value) (a : α) : Prop :=
  check (write a) = .valid a

theorem readsBack_text (s : String) : ReadsBack text .text s := rfl

theorem readsBack_option [DecidableEq α] {options : List (String × α)} {a : α}
    (h : options.lookup (Config.optionName options a) = some a) :
    ReadsBack (option options) (fun a => .text (Config.optionName options a)) a := by
  unfold ReadsBack option
  simp only [h]

/-- What may be absent is written as null if it is, so nothing else is. -/
theorem readsBack_optional {check : Value → Check α} {write : α → Value} (a? : Option α)
    (hnull : ∀ a, (write a).isNull = false) (h : ∀ a ∈ a?, ReadsBack check write a) :
    ReadsBack (optional check) (Value.ofOption write) a? := by
  cases a? with
  | none => rfl
  | some a =>
      have hcheck : check (write a) = .valid a := h a rfl
      unfold ReadsBack optional
      simp only [Value.ofOption, hnull a, hcheck]
      rfl

namespace Check

theorem seq_valid {first : Check (α → β)} {second : Check α} {f : α → β} {a : α}
    (hfirst : first = .valid f) (hsecond : second = .valid a) :
    (first <*> second) = .valid (f a) :=
  seq_eq_valid.mpr ⟨f, a, hfirst, hsecond, rfl⟩

theorem fmap_valid {check : Check α} {a : α} (f : α → β) (h : check = .valid a) :
    (f <$> check) = .valid (f a) :=
  map_eq_valid.mpr ⟨a, h, rfl⟩

theorem all_map {γ : Type} (check : β → Check γ) (f : α → β) (items : List α) :
    all check (items.map f) = all (fun item => check (f item)) items := by
  induction items with
  | nil => rfl
  | cons item rest ih =>
      simp only [List.map_cons, all, ih]

/-- All members are accepted if each is. -/
theorem all_eq_valid_of_forall {check : α → Check β} {f : α → β} {items : List α}
    (h : ∀ item ∈ items, check item = .valid (f item)) :
    all check items = .valid (items.map f) := by
  induction items with
  | nil => rfl
  | cons item rest ih =>
      have hrest := ih fun other hother => h other (List.mem_cons_of_mem _ hother)
      exact seq_valid (fmap_valid _ (h item List.mem_cons_self)) hrest

/-- What is accepted for a list is what is accepted for its members. -/
theorem exists_of_mem_all {check : α → Check β} {items : List α} {found : List β}
    (h : all check items = .valid found) {b : β} (hb : b ∈ found) :
    ∃ item ∈ items, check item = .valid b := by
  induction items generalizing found with
  | nil =>
      cases h
      cases hb
  | cons item rest ih =>
      obtain ⟨_, others, hfirst, hrest, rfl⟩ := seq_eq_valid.mp h
      obtain ⟨first, hitem, rfl⟩ := map_eq_valid.mp hfirst
      rcases List.mem_cons.mp hb with rfl | hb
      · exact ⟨item, List.mem_cons_self, hitem⟩
      · obtain ⟨other, hother, hcheck⟩ := ih hrest hb
        exact ⟨other, List.mem_cons_of_mem _ hother, hcheck⟩

end Check

/-! ## Lists -/

theorem readsBack_list {check : Value → Check α} {write : α → Value} (items : List α)
    (h : ∀ a ∈ items, ReadsBack check write a) :
    ReadsBack (list check) (fun items => .list (items.map write)) items := by
  show Check.all (fun item : String × Value => (check item.2).under item.1)
    (numbered (items.map write)) = .valid items
  have hitem : ∀ item ∈ numbered items,
      (check (write item.2)).under item.1 = .valid item.2 := by
    intro item hitem
    have hmem : item.2 ∈ items := by
      rw [← map_snd_numbered items]
      exact List.mem_map_of_mem hitem
    exact Check.under_eq_valid.mpr (h item.2 hmem)
  rw [numbered_map, Check.all_map, Check.all_eq_valid_of_forall hitem, map_snd_numbered]

/-- Every member of an accepted list is accepted by itself. -/
theorem exists_of_mem_list {check : Value → Check α} {value : Value} {items : List α}
    (h : list check value = .valid items) {a : α} (ha : a ∈ items) :
    ∃ item, check item = .valid a := by
  have hitems : ∀ found : List Value,
      Check.all (fun item : String × Value => (check item.2).under item.1) (numbered found) =
        .valid items → ∃ item, check item = .valid a := by
    intro found hfound
    obtain ⟨item, -, hitem⟩ := Check.exists_of_mem_all hfound ha
    exact ⟨item.2, Check.under_eq_valid.mp hitem⟩
  unfold list at h
  split at h
  · exact hitems _ h
  · exact hitems _ h
  · exact hitems _ h
  · cases h

/-! ## Mappings -/

theorem nodup_keys_of_textMap {value : Value} {m : OrderedMap String String}
    (h : textMap value = .valid m) : m.keys.Nodup := by
  unfold textMap at h
  split at h
  · obtain ⟨found, -, rfl⟩ := Check.map_eq_valid.mp h
    exact OrderedMap.nodup_keys_ofList found
  · cases h

theorem readsBack_textMap {m : OrderedMap String String} (h : m.keys.Nodup) :
    ReadsBack textMap
      (fun m => .object (m.entries.map fun entry => (entry.1, .text entry.2))) m := by
  have hall : Check.all (fun entry : Scalar × Value =>
      Prod.mk <$> ((text (.scalar entry.1)).under "[key]").under (keyName entry.1)
        <*> (text entry.2).under (keyName entry.1))
      ((m.entries.map fun entry => (entry.1, Value.text entry.2)).map fun field =>
        (Scalar.text field.1, field.2)) = .valid m.entries := by
    rw [List.map_map, Check.all_map]
    exact (Check.all_eq_valid_of_forall fun entry _ => rfl).trans
      (congrArg Check.valid (List.map_id m.entries))
  have hsame : OrderedMap.ofList m.entries = m :=
    congrArg OrderedMap.mk (OrderedMap.entries_ofList_of_nodup h)
  exact (Check.fmap_valid OrderedMap.ofList hall).trans (congrArg Check.valid hsame)

/-! ## Records -/

theorem opened_object (fields : List (String × Value)) :
    (Value.object fields).opened = .map (fields.map fun field => (.text field.1, field.2)) := rfl

section

variable {name other : String} {value : Value} {rest : List (String × Value)} {builtIn : α}
  {check : Value → Check α}

/-- A field is read where it is written, -/
theorem field_object_self :
    field (((name, value) :: rest).map fun field => (.text field.1, field.2)) name builtIn check =
      (check value).under name := by
  simp [field, OrderedMap.find?]

/-- and the fields before it do not matter. -/
theorem field_object_of_ne (h : other ≠ name) :
    field (((other, value) :: rest).map fun field => (.text field.1, field.2)) name builtIn check =
      field (rest.map fun field => (.text field.1, field.2)) name builtIn check := by
  simp [field, OrderedMap.find?, h]

end

/-- What holds of the built-in value and of all that the check accepts holds of the field. -/
theorem property_of_field {entries : List (Scalar × Value)} {name : String} {builtIn a : α}
    {check : Value → Check α} {P : α → Prop} (h : field entries name builtIn check = .valid a)
    (hbuiltIn : P builtIn) (hcheck : ∀ value, check value = .valid a → P a) : P a := by
  have hfield := field_eq_valid h
  split at hfield
  · next value _ => exact hcheck value hfield
  · rw [hfield]
    exact hbuiltIn

end AsmNavigator.Schema
