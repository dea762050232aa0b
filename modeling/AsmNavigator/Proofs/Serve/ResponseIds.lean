import AsmNavigator.Proofs.Serve.Conversation
import AsmNavigator.Proofs.Serve.Writable

/-! # Responses carry the identification of their request

An object lays down what its response is identified by: its integer or text, and nothing
if it has no identification or one that cannot be. Whatever else is in the object and
whatever comes of it, the response carries just that. The response to such an object can be
written unless it repeats a method, or holds a result, with lone surrogates.
-/

namespace AsmNavigator.Serve

open Session Schema

variable {depth : Nat}

/-! ## Identifications -/

/-- What the response to an object is identified by: an integer, or a text that can be
encoded. It is nothing if the object has no identification, or a collection or a fraction
in its place. -/
inductive LaysDown (entries : List (Scalar × Value)) : Option RequestId → Prop where
  | number {n : Int} :
      OrderedMap.find? (.text "id") entries = some (.int n) → LaysDown entries (some (.number n))
  | text {s : String} :
      OrderedMap.find? (.text "id") entries = some (.text s) → Text.IsEncodable s →
      LaysDown entries (some (.text s))
  | absent : OrderedMap.find? (.text "id") entries = none → LaysDown entries none
  | list {items : List Value} :
      OrderedMap.find? (.text "id") entries = some (.list items) → LaysDown entries none
  | object {members : List (Scalar × Value)} :
      OrderedMap.find? (.text "id") entries = some (.map members) → LaysDown entries none
  | fraction {x : Double} :
      OrderedMap.find? (.text "id") entries = some (.scalar (.float x)) → x.toInt? = none →
      LaysDown entries none

/-- The line is an object, and lays down what its response is identified by. -/
def Identifies (depth : Nat) (line : String) (id? : Option RequestId) : Prop :=
  ∃ entries, readLine depth line = .ok (.map entries) ∧ LaysDown entries id?

/-- An identification as it is written: a number without quotes, a text with quotes. -/
def writtenId : Option RequestId → String
  | none => "null"
  | some (.number n) => toString n
  | some (.text s) => Json.writeText false s

/-- The response has an identification, and its line begins with it. -/
structure Response.Carries (response : Response) (id? : Option RequestId) : Prop where
  id : response.id? = id?
  line : ∃ rest, response.line = "\x7b\"id\":" ++ writtenId id? ++ "," ++ rest

theorem Response.carries_id (response : Response) : response.Carries response.id? := by
  have hwritten : Json.write Json.compact (.ofOption RequestId.toValue response.id?) =
      writtenId response.id? := by
    rcases response.id? with _ | _ | _ <;> rfl
  have hopening : "\x7b" ++ (Json.writeKey Json.compact.asciiOnly (.text "id") ++
      Json.compact.keySeparator) = "\x7b\"id\":" := by decide
  refine ⟨rfl, ?_⟩
  unfold Response.line Response.toValue Value.object
  simp only [List.map_cons, List.map_nil, Json.write, Json.writeEntries, hwritten,
    String.intercalate_cons_cons, ← hopening, String.append_assoc]
  exact ⟨_, rfl⟩

theorem exists_invalid_of_fraction {x : Double} (h : x.toInt? = none) :
    ∃ issues, RequestId.check (.scalar (.float x)) = .invalid issues := by
  have hinteger : ∃ issues, integer (.scalar (.float x)) = .invalid issues := by
    cases x with
    | finite negative m e =>
        simp only [integer, h]
        exact ⟨_, rfl⟩
    | _ => exact ⟨_, rfl⟩
  obtain ⟨issues, hinteger⟩ := hinteger
  simp only [RequestId.check, hinteger]
  exact ⟨_, rfl⟩

namespace LaysDown

variable {entries : List (Scalar × Value)} {id? : Option RequestId} {request : Request}

theorem refusedId?_eq (h : LaysDown entries id?) : refusedId? entries = id? := by
  cases h <;> simp_all [refusedId?]

theorem unencodable?_toValue (h : LaysDown entries id?) :
    Json.unencodable? (.ofOption RequestId.toValue id?) = none := by
  cases h with
  | text _ hs => exact (Json.unencodable?_text _).mpr hs
  | _ => rfl

theorem id?_eq (h : LaysDown entries id?) (hvalid : Request.ofEntries entries = .valid request) :
    request.id? = id? := by
  have hfield : field entries "id" none (optional RequestId.check) = .valid request.id? := by
    unfold Request.ofEntries at hvalid
    obtain ⟨_, _, hcharacter, -, rfl⟩ := Check.seq_eq_valid.mp hvalid
    obtain ⟨_, _, hline, -, rfl⟩ := Check.seq_eq_valid.mp hcharacter
    obtain ⟨_, _, hpath, -, rfl⟩ := Check.seq_eq_valid.mp hline
    obtain ⟨_, _, hmethod, -, rfl⟩ := Check.seq_eq_valid.mp hpath
    obtain ⟨_, _, hfirst, -, rfl⟩ := Check.seq_eq_valid.mp hmethod
    obtain ⟨_, hid, heq⟩ := Check.map_eq_valid.mp hfirst
    cases heq
    exact hid
  have hfound := field_eq_valid hfield
  cases h with
  | number hfind =>
      rw [hfind] at hfound
      exact (Check.valid.inj hfound).symm
  | text hfind _ =>
      rw [hfind] at hfound
      exact (Check.valid.inj hfound).symm
  | absent hfind =>
      rw [hfind] at hfound
      exact hfound
  | list hfind =>
      rw [hfind] at hfound
      cases hfound
  | object hfind =>
      rw [hfind] at hfound
      cases hfound
  | fraction hfind hfraction =>
      rw [hfind] at hfound
      obtain ⟨issues, hrefused⟩ := exists_invalid_of_fraction hfraction
      obtain ⟨_, haccepted, -⟩ := Check.map_eq_valid.mp hfound
      cases hrefused.symm.trans haccepted

end LaysDown

/-! ## Runs of one task -/

section

variable {c : Context} {s s' : State} {request : Request} {task : Task}

theorem run_answer_refused {report : Report} (h : request.task = .error report) :
    (answer request).run c s = (.ok { id? := request.id?, error? := some report }, s) := by
  unfold answer
  rw [h]
  rfl

theorem run_answer_done {value : Value} (h : request.task = .ok task)
    (hrun : task.run.run c s = (.ok value, s')) :
    (answer request).run c s = (.ok { id? := request.id?, result := value }, s') := by
  unfold answer perform
  simp only [h, Query.run_bind, run_tryCatch, hrun]
  rfl

theorem run_answer_failed {fault : Fault} (h : request.task = .ok task)
    (hrun : task.run.run c s = (.error fault, s')) :
    ∃ s'', (answer request).run c s =
      (.ok { id? := request.id?, error? := some (.unexpected fault.message
        [("method", .text request.method), ("type", .text fault.kind)]) }, s'') := by
  unfold answer perform
  simp only [h, Query.run_bind, run_tryCatch, hrun]
  exact ⟨_, rfl⟩

end

/-! ## What becomes of an identified line -/

/-- The response to a line repeats a method that cannot be encoded, or it holds a result
that cannot be. -/
inductive Unwritable (depth : Nat) (c : Context) (before : Caches) (line : String) : Prop where
  | method {request : Request} :
      request? depth line = some request → ¬ Text.IsEncodable request.method →
      Unwritable depth c before line
  | result {request : Request} {task : Task} {value : Value} {s : State} :
      request? depth line = some request → request.task = .ok task → s.caches = before →
      (task.run.run c s).1 = .ok value → Json.unencodable? value ≠ none →
      Unwritable depth c before line

section

variable {c : Context} {before after : Caches} {line : String} {request : Request}
  {id? : Option RequestId}

theorem not_unwritable_of_none (h : request? depth line = none) :
    ¬ Unwritable depth c before line := by
  rintro (⟨hrequest, -⟩ | ⟨hrequest, -, -, -, -⟩)
  · cases h.symm.trans hrequest
  · cases h.symm.trans hrequest

/-- The result depends on nothing in the session but the caches. -/
theorem unwritable_iff (s : State) (hrequest : request? depth line = some request) :
    Unwritable depth c s.caches line ↔
      ¬ Text.IsEncodable request.method ∨
        ∃ task value, request.task = .ok task ∧ (task.run.run c s).1 = .ok value ∧
          Json.unencodable? value ≠ none := by
  constructor
  · rintro (⟨hrequest', hmethod⟩ | @⟨_, task, value, t, hrequest', htask, hcaches, hrun, hvalue⟩)
    · cases hrequest.symm.trans hrequest'
      exact .inl hmethod
    · cases hrequest.symm.trans hrequest'
      have hsame := (oblivious_run task c hcaches).1
      exact .inr ⟨task, value, htask, hsame.symm.trans hrun, hvalue⟩
  · rintro (hmethod | ⟨task, value, htask, hrun, hvalue⟩)
    · exact .method hrequest hmethod
    · exact .result hrequest htask rfl hrun hvalue

theorem unwritable_iff_of_error {report : Report} (s : State)
    (hrequest : request? depth line = some request) (htask : request.task = .error report) :
    Unwritable depth c s.caches line ↔ ¬ Text.IsEncodable request.method := by
  rw [unwritable_iff s hrequest]
  refine or_iff_left ?_
  rintro ⟨_, _, hok, -⟩
  cases htask.symm.trans hok

theorem unwritable_iff_of_ok {task : Task} (s : State)
    (hrequest : request? depth line = some request) (htask : request.task = .ok task) :
    Unwritable depth c s.caches line ↔
      ∃ value, (task.run.run c s).1 = .ok value ∧ Json.unencodable? value ≠ none := by
  rw [unwritable_iff s hrequest, or_iff_right (not_not.mpr (isEncodable_of_task htask))]
  constructor
  · rintro ⟨_, value, hok, hvalue⟩
    cases htask.symm.trans hok
    exact ⟨value, hvalue⟩
  · rintro ⟨value, hvalue⟩
    exact ⟨task, value, htask, hvalue⟩

theorem not_unwritable_of_stop (hrequest : request? depth line = some request)
    (hstop : request.method = stopMethod) : ¬ Unwritable depth c before line := by
  intro hunwritable
  rcases (unwritable_iff ⟨before, [], none⟩ hrequest).mp hunwritable with hodd | ⟨_, _, htask, -⟩
  · rw [hstop] at hodd
    exact hodd (.literal (by decide))
  · unfold Request.task at htask
    rw [hstop] at htask
    cases htask

/-- A response to a request that is no request to stop. -/
theorem exists_answer (s : State) (hrequest : request? depth line = some request)
    (hid : Json.unencodable? (.ofOption RequestId.toValue request.id?) = none) :
    ∃ response s', (answer request).run c s = (.ok response, s') ∧ response.id? = request.id? ∧
      (response.unencodable? = none ↔ ¬ Unwritable depth c s.caches line) := by
  cases htask : request.task with
  | error report =>
      refine ⟨_, s, run_answer_refused htask, rfl, ?_⟩
      rw [unwritable_iff_of_error s hrequest htask, not_not, ← unencodable?_task htask,
        Response.unencodable?_eq_none_iff]
      exact ⟨fun ⟨_, _, hreport⟩ => hreport, fun hreport => ⟨hid, rfl, hreport⟩⟩
  | ok task =>
      rw [unwritable_iff_of_ok s hrequest htask]
      rcases hrun : task.run.run c s with ⟨fault | value, s'⟩
      · obtain ⟨s'', hanswer⟩ := run_answer_failed htask hrun
        refine ⟨_, s'', hanswer, rfl, iff_of_true ?_ nofun⟩
        exact (Response.unencodable?_eq_none_iff _).mpr
          ⟨hid, rfl, unencodable?_unexpected (isEncodable_of_task htask) fault⟩
      · refine ⟨_, s', run_answer_done htask hrun, rfl, ?_⟩
        rw [Response.unencodable?_eq_none_iff]
        constructor
        · rintro ⟨-, hvalue, -⟩ ⟨_, ⟨⟩, hodd⟩
          exact hodd hvalue
        · intro hwritable
          exact ⟨hid, by_contra fun hodd => hwritable ⟨value, rfl, hodd⟩, rfl⟩

/-- An object is refused with a response that can be written. -/
theorem run_handleRequest_invalid {entries : List (Scalar × Value)} {issues : List Issue}
    (s : State) (hlays : LaysDown entries id?) (h : Request.ofEntries entries = .invalid issues) :
    ∃ response, (handleRequest entries).run c s = (.ok (.respond response), s) ∧
      response.id? = id? ∧ response.unencodable? = none := by
  have hwritable := writable_ofEntries entries issues h
  have hencodable := hlays.unencodable?_toValue
  rw [← hlays.refusedId?_eq] at hencodable ⊢
  unfold handleRequest
  rw [h]
  cases issues with
  | nil =>
      refine ⟨_, rfl, rfl, ?_⟩
      exact unencodable?_refuse hencodable (.literal (by decide)) (List.forall_mem_nil _)
  | cons issue rest =>
      refine ⟨_, rfl, rfl, ?_⟩
      have hissue := hwritable issue List.mem_cons_self
      have hreason : Text.IsEncodable (issue.field ++ ": " ++ issue.message) :=
        (hissue.field.append (.literal (by decide))).append hissue.message
      exact unencodable?_refuse hencodable hreason (encodable_detail (by decide) hissue.field)

/-- Whatever becomes of an identified line, its response carries the identification, and
it can be written exactly if the method and the result can be encoded. -/
theorem Handles.identified {reply : Reply} (h : Handles depth c before line reply after)
    (hid : Identifies depth line id?) :
    ∃ response, reply.response? = some response ∧ response.id? = id? ∧
      (response.unencodable? = none ↔ ¬ Unwritable depth c before line) := by
  obtain ⟨entries, hread, hlays⟩ := hid
  obtain ⟨s', hrun, -⟩ := h ⟨before, [], none⟩ rfl
  have hhandle : handleLine depth line = handleRequest entries := by
    simp only [handleLine, hread]
  rw [hhandle] at hrun
  cases hcheck : Request.ofEntries entries with
  | faulty fault => exact absurd hcheck (decides_ofEntries entries fault)
  | invalid issues =>
      have hnone : request? depth line = none := by simp only [request?, hread, hcheck]
      obtain ⟨response, hrefused, hsame, hwritable⟩ := run_handleRequest_invalid _ hlays hcheck
      cases hrun.symm.trans hrefused
      exact ⟨response, rfl, hsame, iff_of_true hwritable (not_unwritable_of_none hnone)⟩
  | valid request =>
      have hrequest : request? depth line = some request := by simp only [request?, hread, hcheck]
      obtain rfl := hlays.id?_eq hcheck
      have hencodable := hlays.unencodable?_toValue
      rw [handleRequest, hcheck] at hrun
      simp only at hrun
      split at hrun
      · next hstop =>
          cases hrun
          refine ⟨_, rfl, rfl, iff_of_true ?_ (not_unwritable_of_stop hrequest hstop)⟩
          exact (Response.unencodable?_eq_none_iff _).mpr ⟨hencodable, rfl, rfl⟩
      · obtain ⟨response, s'', hanswer, hsame, hiff⟩ :=
          exists_answer ⟨before, [], none⟩ hrequest hencodable
        rw [Query.run_bind, hanswer] at hrun
        cases hrun
        exact ⟨response, rfl, hsame, hiff⟩

theorem Responds.carries {response : Response} (h : Responds depth c before line response after)
    (hid : Identifies depth line id?) :
    response.Carries id? ∧ ¬ Unwritable depth c before line := by
  obtain ⟨reply, hhandles, hresponse, hencodable⟩ := h
  obtain ⟨response', hresponse', rfl, hiff⟩ := hhandles.identified hid
  cases hresponse.symm.trans hresponse'
  exact ⟨response.carries_id, hiff.mp hencodable⟩

theorem Interrupts.unwritable_of_identifies {cause : Interruption}
    (h : Interrupts depth c before line cause after) (hid : Identifies depth line id?) :
    Unwritable depth c before line := by
  cases h with
  | unreadable hread hkind =>
      obtain ⟨entries, hobject, -⟩ := hid
      cases hread.symm.trans hobject
  | unwritable hhandles hresponse hrun =>
      obtain ⟨response, hresponse', -, hiff⟩ := hhandles.identified hid
      cases hresponse.symm.trans hresponse'
      by_contra hwritable
      cases hrun.symm.trans (hiff.mpr hwritable)

end

/-! ## Whole runs -/

theorem Served.carries {c : Context} {before after : Caches} {lines : List String}
    {transcript : List (String × Response)} {broken? : Option Interruption}
    (h : Served depth c before lines transcript broken? after) :
    ∀ entry ∈ transcript, ∀ id?, Identifies depth entry.1 id? → entry.2.Carries id? := by
  induction h with
  | finished => simp
  | answered hresponds _ ih =>
      intro entry hentry id? hid
      rcases List.mem_cons.mp hentry with rfl | hentry
      · exact (hresponds.carries hid).1
      · exact ih entry hentry id? hid
  | interrupted _ => simp

/-- Every response carries the identification of its line. Each line that the loop attends
to has its response, unless one interrupts the loop. A line with an identification does so
only if its method, or its result, cannot be encoded, and then it has no response. -/
theorem serve_carries_ids (depth : Nat) (c : Context) (newId : Nat → String) (s : State)
    (lines : List String) :
    ∃ transcript broken? s',
      (serve depth newId lines).run c s =
          (.ok ⟨transcript.map Prod.snd, transcript.length, broken?⟩, s') ∧
        Served depth c s.caches (attended depth lines) transcript broken? s'.caches ∧
        (∀ entry ∈ transcript, ∀ id?, Identifies depth entry.1 id? → entry.2.Carries id?) ∧
        (match broken? with
          | none => transcript.map Prod.fst = attended depth lines
          | some cause => ∃ between line rest,
              attended depth lines = transcript.map Prod.fst ++ line :: rest ∧
                Interrupts depth c between line cause s'.caches ∧
                ∀ id?, Identifies depth line id? → Unwritable depth c between line) ∧
        ∀ before line id?, Identifies depth line id? → Unwritable depth c before line →
          ∀ response after, ¬ Responds depth c before line response after := by
  obtain ⟨transcript, broken?, s', hrun, hserved⟩ := run_serveFrom depth c newId 0 s lines
  rw [Nat.zero_add] at hrun
  refine ⟨transcript, broken?, s', hrun, hserved, hserved.carries, ?_, ?_⟩
  · cases broken? with
    | none => exact hserved.lines_eq
    | some cause =>
        obtain ⟨between, line, rest, hlines, hinterrupts⟩ := hserved.exists_interrupts
        exact ⟨between, line, rest, hlines, hinterrupts,
          fun id? hid => hinterrupts.unwritable_of_identifies hid⟩
  · intro before line id? hid hunwritable response after hresponds
    exact (hresponds.carries hid).2 hunwritable

end AsmNavigator.Serve
