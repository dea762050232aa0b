import AsmNavigator.Proofs.Data.Encoding
import AsmNavigator.Proofs.Data.Outcome
import AsmNavigator.Serve.Loop

/-! # Responses that can be written

A response can be written if what it is put together from can be encoded. What a request is
refused with always can, and so can the report of a fault; the one report that cannot is that
of an unknown method with lone surrogates.
-/

namespace AsmNavigator

/-! ## Issues that can be written -/

namespace Schema

structure Issue.IsWritable (issue : Issue) : Prop where
  location : ∀ name ∈ issue.location, Text.IsEncodable name
  message : Text.IsEncodable issue.message

theorem Issue.IsWritable.field {issue : Issue} (h : issue.IsWritable) :
    Text.IsEncodable issue.field :=
  Text.isEncodable_intercalate (by decide) h.location

def simpleKinds : List IssueKind :=
  [.required, .textExpected, .brokenText, .integerExpected, .integerText, .integerSize, .fraction,
    .notFinite]

theorem isEncodable_message {kind : IssueKind} (h : kind ∈ simpleKinds) :
    Text.IsEncodable kind.message := by
  simp only [simpleKinds, List.mem_cons, List.not_mem_nil, or_false] at h
  rcases h with rfl | rfl | rfl | rfl | rfl | rfl | rfl | rfl
  all_goals exact .literal (by decide)

namespace Check

variable {α β : Type}

/-- A check of which every issue can be written. -/
def Writable (check : Check α) : Prop :=
  ∀ issues, check = .invalid issues → ∀ issue ∈ issues, issue.IsWritable

namespace Writable

theorem valid (a : α) : Writable (.valid a) := fun _ h => nomatch h

theorem invalid {issues : List Issue} (h : ∀ issue ∈ issues, issue.IsWritable) :
    Writable (.invalid issues : Check α) := by
  rintro _ ⟨⟩
  exact h

theorem reject {kind : IssueKind} (h : Text.IsEncodable kind.message) (value : Value) :
    Writable (.reject kind value : Check α) :=
  invalid (by simpa using ⟨nofun, h⟩)

theorem simple {kind : IssueKind} (h : kind ∈ simpleKinds) (value : Value) :
    Writable (.reject kind value : Check α) :=
  reject (isEncodable_message h) value

theorem map {check : Check α} (h : check.Writable) (f : α → β) : (check.map f).Writable := by
  cases check with
  | valid a => exact valid _
  | invalid issues => exact invalid (h issues rfl)
  | faulty fault => exact fun _ h => nomatch h

theorem seq {first : Check (α → β)} {second : Check α} (hfirst : first.Writable)
    (hsecond : second.Writable) : (first <*> second).Writable := by
  cases first with
  | faulty fault => exact fun _ h => nomatch h
  | valid f => exact hsecond.map f
  | invalid issues =>
      cases second with
      | faulty fault => exact fun _ h => nomatch h
      | valid a => exact invalid (hfirst issues rfl)
      | invalid more =>
          refine invalid fun issue hissue => ?_
          rcases List.mem_append.mp hissue with hissue | hissue
          · exact hfirst issues rfl issue hissue
          · exact hsecond more rfl issue hissue

theorem under {check : Check α} (h : check.Writable) {name : String}
    (hname : Text.IsEncodable name) : (check.under name).Writable := by
  cases check with
  | valid a => exact valid _
  | faulty fault => exact fun _ h => nomatch h
  | invalid issues =>
      refine invalid fun issue hissue => ?_
      obtain ⟨inner, hinner, rfl⟩ := List.mem_map.mp hissue
      have hwritable := h issues rfl inner hinner
      exact ⟨List.forall_mem_cons.mpr ⟨hname, hwritable.location⟩, hwritable.message⟩

theorem andThen {check : Check α} {next : α → Check β} (h : check.Writable)
    (hnext : ∀ a, (next a).Writable) : (check.andThen next).Writable := by
  cases check with
  | valid a => exact hnext a
  | invalid issues => exact invalid (h issues rfl)
  | faulty fault => exact fun _ h => nomatch h

theorem text (value : Value) : (Schema.text value).Writable := by
  unfold Schema.text
  split
  · exact valid _
  · split
    · exact valid _
    · exact simple (by decide) _
  · exact simple (by decide) _

theorem integerText (value : Value) (s : String) : (Schema.integerText value s).Writable := by
  unfold Schema.integerText
  split
  · exact valid _
  · exact simple (by decide) _
  · exact simple (by decide) _

theorem integer (value : Value) : (Schema.integer value).Writable := by
  unfold Schema.integer
  split
  · exact valid _
  · exact valid _
  · split
    · split
      · exact simple (by decide) _
      · split
        · exact valid _
        · exact simple (by decide) _
    · exact simple (by decide) _
  · split
    · exact simple (by decide) _
    · exact integerText _ _
  · split
    · exact integerText _ _
    · exact simple (by decide) _
  · exact simple (by decide) _

theorem optional {check : Value → Check α} (h : ∀ value, (check value).Writable)
    (value : Value) : (Schema.optional check value).Writable := by
  unfold Schema.optional
  split
  · exact valid _
  · exact (h value).map _

theorem field {check : Value → Check α} (h : ∀ value, (check value).Writable)
    (entries : List (Scalar × Value)) {name : String} (hname : Text.IsEncodable name)
    (builtIn : α) : (Schema.field entries name builtIn check).Writable := by
  unfold Schema.field
  cases OrderedMap.find? (.text name) entries with
  | none => exact valid _
  | some value => exact (h value).under hname

theorem requiredField {check : Value → Check α} (h : ∀ value, (check value).Writable)
    (entries : List (Scalar × Value)) {name : String} (hname : Text.IsEncodable name) :
    (Schema.requiredField entries name check).Writable := by
  unfold Schema.requiredField
  cases OrderedMap.find? (.text name) entries with
  | none => exact (simple (by decide) _).under hname
  | some value => exact (h value).under hname

end Writable

end Check

end Schema

namespace Serve

open Session Schema

theorem writable_id (value : Value) : (RequestId.check value).Writable := by
  unfold RequestId.check
  split
  · exact .valid _
  · have hinteger : ((integer value).under "int").Writable :=
      (Check.Writable.integer value).under (by decide)
    have htext : ((Check.reject .textExpected value : Check RequestId).under "str").Writable :=
      (Check.Writable.simple (by decide) value).under (by decide)
    cases hcheck : integer value with
    | valid n => exact .valid _
    | faulty fault => exact fun _ h => nomatch h
    | invalid issues =>
        rw [hcheck] at hinteger
        refine .invalid fun issue hissue => ?_
        rcases List.mem_append.mp hissue with hissue | hissue
        · exact hinteger _ rfl issue hissue
        · exact htext _ rfl issue hissue

theorem writable_coordinate (value : Value) : (coordinate value).Writable := by
  refine (Check.Writable.integer value).andThen fun n => ?_
  have hbound : Text.IsEncodable (IssueKind.below 0).message :=
    .append (.literal (by decide)) (by decide)
  unfold atLeast
  split
  · exact .valid _
  · exact .reject hbound _

theorem writable_ofEntries (entries : List (Scalar × Value)) :
    (Request.ofEntries entries).Writable := by
  refine .seq (.seq (.seq (.seq (.seq (.map ?_ _) ?_) ?_) ?_) ?_) ?_
  · exact .field (.optional writable_id) _ (by decide) _
  · exact .requiredField .text _ (by decide)
  · exact .field (.optional .text) _ (by decide) _
  · exact .field (.optional writable_coordinate) _ (by decide) _
  · exact .field (.optional writable_coordinate) _ (by decide) _
  · exact .field (.optional .text) _ (by decide) _

/-! ## Responses that can be written -/

theorem Response.unencodable?_eq_none_iff (response : Response) :
    response.unencodable? = none ↔
      Json.unencodable? (.ofOption RequestId.toValue response.id?) = none ∧
        Json.unencodable? response.result = none ∧
        Json.unencodable? (.ofOption Report.toValue response.error?) = none := by
  unfold Response.unencodable? Response.toValue
  simp only [Json.unencodable?_object, List.forall_mem_cons]
  constructor
  · rintro ⟨⟨-, hid⟩, ⟨-, hresult⟩, ⟨-, herror⟩, -⟩
    exact ⟨hid, hresult, herror⟩
  · rintro ⟨hid, hresult, herror⟩
    exact ⟨⟨by decide, hid⟩, ⟨by decide, hresult⟩, ⟨by decide, herror⟩, nofun⟩

/-- A report of a malformed request can be written if its reason and its details can. -/
theorem unencodable?_malformedRequest {reason : String} {details : List (String × Value)}
    (hreason : Text.IsEncodable reason)
    (hdetails : ∀ detail ∈ details, Text.IsEncodable detail.1 ∧ Json.unencodable? detail.2 = none) :
    Json.unencodable? (Report.malformedRequest reason details).toValue = none :=
  (Report.unencodable?_toValue _).mpr ⟨.append (.literal (by decide)) hreason, hdetails⟩

theorem encodable_detail {name s : String} (hname : Text.IsEncodable name)
    (hs : Text.IsEncodable s) :
    ∀ detail ∈ [(name, Value.text s)],
      Text.IsEncodable detail.1 ∧ Json.unencodable? detail.2 = none := by
  simpa [Json.unencodable?_text] using ⟨hname, hs⟩

theorem unencodable?_requirePath {request : Request} {report : Report}
    (h : request.requirePath = .error report) (hmethod : Text.IsEncodable request.method) :
    Json.unencodable? report.toValue = none := by
  unfold Request.requirePath at h
  split at h
  · cases h
  · cases h
    exact unencodable?_malformedRequest (.literal (by decide))
      (encodable_detail (by decide) hmethod)

theorem unencodable?_requirePosition {request : Request} {report : Report}
    (h : request.requirePosition = .error report) (hmethod : Text.IsEncodable request.method) :
    Json.unencodable? report.toValue = none := by
  unfold Request.requirePosition at h
  split at h
  · cases h
  · cases h
    exact unencodable?_malformedRequest (.literal (by decide))
      (encodable_detail (by decide) hmethod)

theorem unencodable?_unknownMethod (method : String) :
    Json.unencodable? (Report.unknownMethod method).toValue = none ↔ Text.IsEncodable method := by
  rw [Report.unencodable?_toValue]
  constructor
  · rintro ⟨hmessage, -⟩
    exact (Text.isEncodable_append.mp hmessage).2
  · intro h
    exact ⟨.append (.literal (by decide)) h, encodable_detail (by decide) h⟩

theorem unencodable?_positioned {request : Request} {report : Report}
    (hmethod : Text.IsEncodable request.method) {next : Path → Int × Int → Task}
    (h : (do return next (← request.requirePath) (← request.requirePosition)) = .error report) :
    Json.unencodable? report.toValue = none := by
  rcases bind_eq_error.mp h with h | ⟨path, -, h⟩
  · exact unencodable?_requirePath h hmethod
  · rcases bind_eq_error.mp h with h | ⟨position, -, h⟩
    · exact unencodable?_requirePosition h hmethod
    · cases h

/-- A method with surrogates is not known. -/
theorem isEncodable_or_unknown (request : Request) :
    Text.IsEncodable request.method ∨ request.task = .error (.unknownMethod request.method) := by
  unfold Request.task
  split
  · next hmethod => exact .inl (by rw [hmethod]; decide)
  · next hmethod => exact .inl (by rw [hmethod]; decide)
  · next hmethod => exact .inl (by rw [hmethod]; decide)
  · next hmethod => exact .inl (by rw [hmethod]; decide)
  · exact .inr rfl

theorem isEncodable_of_task {request : Request} {task : Task} (h : request.task = .ok task) :
    Text.IsEncodable request.method := by
  rcases isEncodable_or_unknown request with hmethod | hunknown
  · exact hmethod
  · cases h.symm.trans hunknown

/-- What a request is refused with repeats surrogates of its method, and no others. -/
theorem unencodable?_task {request : Request} {report : Report} (h : request.task = .error report) :
    Json.unencodable? report.toValue = none ↔ Text.IsEncodable request.method := by
  rcases isEncodable_or_unknown request with hmethod | hunknown
  · refine iff_of_true ?_ hmethod
    unfold Request.task at h
    split at h
    · exact unencodable?_positioned hmethod h
    · exact unencodable?_positioned hmethod h
    · cases hpath : request.requirePath with
      | ok path =>
          rw [hpath] at h
          cases h
      | error refusal =>
          rw [hpath] at h
          cases h
          exact unencodable?_requirePath hpath hmethod
    · cases h
    · cases h
      exact (unencodable?_unknownMethod _).mpr hmethod
  · cases h.symm.trans hunknown
    exact unencodable?_unknownMethod _

theorem unencodable?_unexpected {method : String} (hmethod : Text.IsEncodable method)
    (fault : Fault) :
    Json.unencodable? (Report.unexpected fault.message
      [("method", .text method), ("type", .text fault.kind)]).toValue = none := by
  refine (Report.unencodable?_toValue _).mpr
    ⟨.append (.literal (by decide)) fault.isEncodable_message, ?_⟩
  simp only [Report.details, List.forall_mem_cons, Json.unencodable?_text]
  exact ⟨⟨by decide, hmethod⟩, ⟨by decide, fault.isEncodable_kind⟩, nofun⟩

theorem unencodable?_refuse {id? : Option RequestId} {reason : String}
    {details : List (String × Value)}
    (hid : Json.unencodable? (.ofOption RequestId.toValue id?) = none)
    (hreason : Text.IsEncodable reason)
    (hdetails : ∀ detail ∈ details, Text.IsEncodable detail.1 ∧ Json.unencodable? detail.2 = none) :
    Response.unencodable? { id?, error? := some (.malformedRequest reason details) } = none :=
  (Response.unencodable?_eq_none_iff _).mpr
    ⟨hid, rfl, unencodable?_malformedRequest hreason hdetails⟩

end Serve

end AsmNavigator
