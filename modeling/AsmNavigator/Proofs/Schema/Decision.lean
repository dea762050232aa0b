import AsmNavigator.Proofs.Schema.Acceptance
import AsmNavigator.Proofs.Schema.Compositional

/-! # How checks end

A check accepts, refuses or faults. The checks of texts, numbers and fields never fault,
and neither does what is put together from such checks; any other check ends in the first
fault of its parts. A refusal always says what is wrong.
-/

namespace AsmNavigator.Schema

namespace Check

variable {α β : Type}

/-! ## Checks that end in no fault -/

/-- A check that accepts or refuses. -/
def Decides (check : Check α) : Prop := ∀ fault, check ≠ .faulty fault

namespace Decides

theorem valid (a : α) : Decides (.valid a) := fun _ h => nomatch h

theorem invalid (issues : List Issue) : Decides (.invalid issues : Check α) :=
  fun _ h => nomatch h

theorem reject (kind : IssueKind) (value : Value) : Decides (.reject kind value : Check α) :=
  invalid _

theorem map {check : Check α} (h : check.Decides) (f : α → β) : (check.map f).Decides := by
  cases check with
  | valid a => exact valid _
  | invalid issues => exact invalid _
  | faulty fault => exact absurd rfl (h fault)

theorem seq {first : Check (α → β)} {second : Check α} (hfirst : first.Decides)
    (hsecond : second.Decides) : (first <*> second).Decides := by
  cases first with
  | faulty fault => exact absurd rfl (hfirst fault)
  | valid f => exact hsecond.map f
  | invalid issues =>
      cases second with
      | faulty fault => exact absurd rfl (hsecond fault)
      | valid a => exact invalid _
      | invalid more => exact invalid _

theorem andThen {check : Check α} {next : α → Check β} (h : check.Decides)
    (hnext : ∀ a, (next a).Decides) : (check.andThen next).Decides := by
  cases check with
  | valid a => exact hnext a
  | invalid issues => exact invalid _
  | faulty fault => exact absurd rfl (h fault)

theorem under {check : Check α} (h : check.Decides) (name : String) :
    (check.under name).Decides := by
  cases check with
  | valid a => exact valid _
  | invalid issues => exact invalid _
  | faulty fault => exact absurd rfl (h fault)

end Decides

theorem compositional_decides : Compositional Decides where
  valid := Decides.valid
  reject := Decides.reject
  map := Decides.map
  seq := Decides.seq
  andThen := Decides.andThen
  under := Decides.under

namespace Decides

theorem optional {check : Value → Check α} (h : ∀ value, (check value).Decides)
    (value : Value) : (Schema.optional check value).Decides :=
  compositional_decides.optional h value

theorem field {check : Value → Check α} (h : ∀ value, (check value).Decides)
    (entries : List (Scalar × Value)) (name : String) (builtIn : α) :
    (Schema.field entries name builtIn check).Decides :=
  compositional_decides.field h entries name builtIn

theorem requiredField {check : Value → Check α} (h : ∀ value, (check value).Decides)
    (entries : List (Scalar × Value)) (name : String) :
    (Schema.requiredField entries name check).Decides :=
  compositional_decides.requiredField h entries name

theorem text (value : Value) : (Schema.text value).Decides := compositional_decides.text value

theorem integer (value : Value) : (Schema.integer value).Decides :=
  compositional_decides.integer value

end Decides

/-! ## The fault of a check -/

def fault? : Check α → Option Fault
  | .faulty fault => some fault
  | _ => none

theorem fault?_eq_some {check : Check α} {fault : Fault} :
    check.fault? = some fault ↔ check = .faulty fault := by
  cases check <;> simp [fault?]

theorem Decides.fault? {check : Check α} (h : check.Decides) : check.fault? = none := by
  cases check with
  | valid a => rfl
  | invalid issues => rfl
  | faulty fault => exact absurd rfl (h fault)

theorem fault?_map (f : α → β) (check : Check α) : (f <$> check).fault? = check.fault? := by
  cases check <;> rfl

/-- The first part that faults decides, whatever the others yield. -/
theorem fault?_seq (first : Check (α → β)) (second : Check α) :
    (first <*> second).fault? = first.fault?.or second.fault? := by
  cases first <;> cases second <;> rfl

theorem fault?_under (check : Check α) (name : String) :
    (check.under name).fault? = check.fault? := by
  cases check <;> rfl

theorem fault?_all (check : α → Check β) (items : List α) :
    (all check items).fault? = items.findSome? fun item => (check item).fault? := by
  induction items with
  | nil => rfl
  | cons item rest ih =>
      have hcons : (all check (item :: rest)).fault? =
          (check item).fault?.or (all check rest).fault? := by
        rw [all, fault?_seq, fault?_map]
      rw [hcons, ih, List.findSome?_cons]
      cases (check item).fault? <;> rfl

/-! ## Refusals -/

end Check

/-! ## Faults of lists and records -/

def itemsOf (value : Value) : List Value :=
  match value.opened with
  | .list items => items
  | .set members => members.map .scalar
  | .pair first second => [first, second]
  | _ => []

variable {α : Type}

theorem fault?_list (check : Value → Check α) (value : Value) :
    (list check value).fault? = (itemsOf value).findSome? fun item => (check item).fault? := by
  have hitems : ∀ items : List Value,
      (Check.all (fun item : String × Value => (check item.2).under item.1)
        (numbered items)).fault? = items.findSome? fun item => (check item).fault? := by
    intro items
    rw [Check.fault?_all]
    simp only [Check.fault?_under]
    conv_rhs => rw [← map_snd_numbered items]
    rw [List.findSome?_map]
    rfl
  unfold list itemsOf
  cases value.opened with
  | list items => exact hitems items
  | set members => exact hitems (members.map .scalar)
  | pair first second => exact hitems [first, second]
  | scalar s => rfl
  | map entries => rfl
  | knot label body => rfl
  | link label => rfl

theorem fault?_record (name : String) (value : Value) (fields : List (Scalar × Value) → Check α) :
    (record name value fields).fault? =
      match value.opened with
      | .map entries => (fields entries).fault?
      | _ => none := by
  unfold record
  cases value.opened <;> rfl

theorem fault?_field (entries : List (Scalar × Value)) (name : String) (builtIn : α)
    (check : Value → Check α) :
    (field entries name builtIn check).fault? =
      (OrderedMap.find? (.text name) entries).bind fun value => (check value).fault? := by
  unfold field
  cases OrderedMap.find? (.text name) entries with
  | none => rfl
  | some value => exact Check.fault?_under _ _

end AsmNavigator.Schema
