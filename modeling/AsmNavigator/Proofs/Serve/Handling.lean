import AsmNavigator.Proofs.Schema.Decision
import AsmNavigator.Proofs.Session.Oblivious
import AsmNavigator.Serve.Loop

/-! # What becomes of one line

Handling a line never ends in a fault, and of the session it depends on the caches alone
and changes, but for the journal, nothing else. So what becomes of a line is a relation
between the caches before, the line, the reply and the caches after.
-/

namespace AsmNavigator.Serve

open Session Schema

variable {depth : Nat}

theorem decides_id (value : Value) : (RequestId.check value).Decides := by
  unfold RequestId.check
  split
  · exact .valid _
  · have hinteger := Check.Decides.integer value
    cases hcheck : integer value with
    | valid n => exact .valid _
    | invalid issues => exact .invalid _
    | faulty fault => exact absurd hcheck (hinteger fault)

theorem decides_coordinate (value : Value) : (coordinate value).Decides := by
  refine (Check.Decides.integer value).andThen fun n => ?_
  unfold atLeast
  split
  · exact .valid _
  · exact .reject _ _

theorem decides_ofEntries (entries : List (Scalar × Value)) :
    (Request.ofEntries entries).Decides := by
  refine .seq (.seq (.seq (.seq (.seq (.map ?_ _) ?_) ?_) ?_) ?_) ?_
  · exact .field (.optional decides_id) _ _ _
  · exact .requiredField .text _ _
  · exact .field (.optional .text) _ _ _
  · exact .field (.optional decides_coordinate) _ _ _
  · exact .field (.optional decides_coordinate) _ _ _
  · exact .field (.optional .text) _ _ _

/-! ## What a line is -/

def request? (depth : Nat) (line : String) : Option Request :=
  match readLine depth line with
  | .ok (.map entries) =>
      match Request.ofEntries entries with
      | .valid request => some request
      | _ => none
  | _ => none

def endsLoop (depth : Nat) (line : String) : Bool :=
  (request? depth line).any (·.method = stopMethod)

inductive Reading (depth : Nat) (line : String) : Query Reply → Prop where
  | unreadable {fault : Json.Fault} :
      readLine depth line = .error fault → fault.kind?.isSome = true →
      Reading depth line (pure (.breakOff (.unreadable fault)))
  | malformed {id? : Option RequestId} {reason : String} {details : List (String × Value)} :
      request? depth line = none → Reading depth line (pure (refuse id? reason details))
  | stop {request : Request} :
      request? depth line = some request → request.method = stopMethod →
      Reading depth line (pure (.stop request.id?))
  | task {request : Request} :
      request? depth line = some request → request.method ≠ stopMethod →
      Reading depth line (do return .respond (← answer request))

theorem reading_handleLine (depth : Nat) (line : String) :
    Reading depth line (handleLine depth line) := by
  unfold handleLine
  cases hread : readLine depth line with
  | error fault =>
      simp only
      split
      · next hkind => exact .unreadable hread hkind
      · exact .malformed (by simp [request?, hread])
  | ok value =>
      cases value with
      | map entries =>
          simp only [handleRequest]
          cases hrequest : Request.ofEntries entries with
          | valid request =>
              have hline : request? depth line = some request := by simp [request?, hread, hrequest]
              simp only
              split
              · next hstop => exact .stop hline hstop
              · next hstop => exact .task hline hstop
          | invalid issues =>
              have hline : request? depth line = none := by simp [request?, hread, hrequest]
              cases issues with
              | nil => exact .malformed hline
              | cons issue rest => exact .malformed hline
          | faulty fault => exact absurd hrequest (decides_ofEntries entries fault)
      | _ => exact .malformed (by simp [request?, hread])

/-! ## Faults are caught -/

theorem run_tryCatch {α : Type} {c : Context} (x : Query α) (handle : Fault → Query α)
    (s : State) :
    (tryCatch x handle).run c s =
      match x.run c s with
      | (.ok a, s') => (.ok a, s')
      | (.error fault, s') => (handle fault).run c s' := by
  show (tryCatch x handle) c s = _
  simp only [tryCatch, tryCatchThe, MonadExceptOf.tryCatch, ExceptT.tryCatch, ExceptT.mk,
    Query.run, bind, StateT.bind]
  rcases x c s with ⟨_ | _, _⟩ <;> rfl

theorem oblivious_tryCatch {α : Type} {x : Query α} {handle : Fault → Query α}
    (hx : Oblivious x) (hhandle : ∀ fault, Oblivious (handle fault)) :
    Oblivious (tryCatch x handle) := by
  intro c s t h
  obtain ⟨hanswer, hcaches⟩ := hx c h
  rw [run_tryCatch, run_tryCatch]
  rcases hs : x.run c s with ⟨outcome, s'⟩
  rcases ht : x.run c t with ⟨outcome', t'⟩
  rw [hs, ht] at hanswer hcaches
  simp only at hanswer hcaches
  subst hanswer
  cases outcome with
  | error fault => exact hhandle fault c hcaches
  | ok a => exact ⟨rfl, hcaches⟩

theorem oblivious_run (task : Task) : Oblivious task.run := by
  cases task with
  | definition document line character =>
      exact (Oblivious.definitionIn _ _ _).bind fun _ => .pure _
  | hover document line character => exact (Oblivious.hoverIn _ _ _).bind fun _ => .pure _
  | changed path => exact (Oblivious.fileChanged path).bind fun _ => .pure _
  | clear => exact Oblivious.clear.bind fun _ => .pure _

theorem oblivious_perform (method : String) (task : Task) : Oblivious (perform method task) :=
  oblivious_tryCatch ((oblivious_run task).bind fun _ => .pure _)
    fun _ => (Oblivious.note _ _ _).bind fun _ => .pure _

theorem oblivious_answer (request : Request) : Oblivious (answer request) := by
  unfold answer
  cases request.task with
  | error report => exact .pure _
  | ok task =>
      refine (oblivious_perform _ task).bind fun outcome => ?_
      cases outcome with
      | error report => exact .pure _
      | ok result => exact .pure _

theorem oblivious_handleLine (depth : Nat) (line : String) : Oblivious (handleLine depth line) := by
  have hreading := reading_handleLine depth line
  generalize handleLine depth line = q at hreading
  cases hreading with
  | unreadable => exact .pure _
  | malformed => exact .pure _
  | stop => exact .pure _
  | task => exact (oblivious_answer _).bind fun _ => .pure _

def Succeeds {α : Type} (q : Query α) : Prop :=
  ∀ (c : Context) (s : State), ∃ a s', q.run c s = (.ok a, s')

namespace Succeeds

variable {α β : Type}

theorem pure (a : α) : Succeeds (Pure.pure a : Query α) := fun _ s => ⟨a, s, rfl⟩

theorem bind {x : Query α} {f : α → Query β} (hx : Succeeds x) (hf : ∀ a, Succeeds (f a)) :
    Succeeds (x >>= f) := by
  intro c s
  obtain ⟨a, s', hrun⟩ := hx c s
  rw [Query.run_bind, hrun]
  exact hf a c s'

/-- Whatever happens before, a handler that ends in no fault has the last word. -/
theorem tryCatch (x : Query α) {handle : Fault → Query α} (h : ∀ fault, Succeeds (handle fault)) :
    Succeeds (MonadExcept.tryCatch x handle) := by
  intro c s
  rw [run_tryCatch]
  rcases x.run c s with ⟨fault | a, s'⟩
  · exact h fault c s'
  · exact ⟨a, s', rfl⟩

theorem perform (method : String) (task : Task) : Succeeds (Serve.perform method task) := by
  refine tryCatch _ fun fault => bind ?_ fun _ => pure _
  exact fun _ _ => ⟨_, _, rfl⟩

theorem answer (request : Request) : Succeeds (Serve.answer request) := by
  unfold Serve.answer
  cases request.task with
  | error report => exact pure _
  | ok task =>
      refine (perform _ task).bind fun outcome => ?_
      cases outcome with
      | error report => exact pure _
      | ok result => exact pure _

theorem handleLine (depth : Nat) (line : String) : Succeeds (Serve.handleLine depth line) := by
  have hreading := reading_handleLine depth line
  generalize Serve.handleLine depth line = q at hreading
  cases hreading with
  | unreadable => exact pure _
  | malformed => exact pure _
  | stop => exact pure _
  | task => exact (answer _).bind fun _ => pure _

end Succeeds

/-! ## Replies and caches -/

/-- On these caches, whatever else the session holds, the reply to a line, and what is in
the caches then. -/
def Handles (depth : Nat) (c : Context) (before : Caches) (line : String) (reply : Reply)
    (after : Caches) : Prop :=
  ∀ s : State, s.caches = before →
    ∃ s', (handleLine depth line).run c s = (.ok reply, s') ∧ s'.caches = after

theorem exists_handles (depth : Nat) (c : Context) (before : Caches) (line : String) :
    ∃ reply after, Handles depth c before line reply after := by
  obtain ⟨reply, s, hrun⟩ := Succeeds.handleLine depth line c ⟨before, [], none⟩
  refine ⟨reply, s.caches, fun t ht => ?_⟩
  obtain ⟨reply', t', hrun'⟩ := Succeeds.handleLine depth line c t
  have hsame := oblivious_handleLine depth line c (t := ⟨before, [], none⟩) ht
  rw [hrun, hrun'] at hsame
  obtain ⟨hreply, hcaches⟩ := hsame
  cases hreply
  exact ⟨t', hrun', hcaches⟩

namespace Handles

variable {c : Context} {before after after' : Caches} {line : String} {reply reply' : Reply}

theorem unique (h : Handles depth c before line reply after)
    (h' : Handles depth c before line reply' after') :
    reply = reply' ∧ after = after' := by
  obtain ⟨s, hrun, rfl⟩ := h ⟨before, [], none⟩ rfl
  obtain ⟨s', hrun', rfl⟩ := h' ⟨before, [], none⟩ rfl
  rw [hrun] at hrun'
  cases hrun'
  exact ⟨rfl, rfl⟩

theorem of_eq_pure (h : handleLine depth line = pure reply) :
    Handles depth c before line reply before := by
  intro s hs
  rw [h]
  exact ⟨s, rfl, hs⟩

/-- A line on which the reader gives up, one that is answered, or a request to stop. -/
theorem reply_cases (h : Handles depth c before line reply after) :
    (∃ fault, readLine depth line = .error fault ∧ fault.kind?.isSome = true ∧
        reply = .breakOff (.unreadable fault) ∧ after = before) ∨
      (endsLoop depth line = false ∧ ∃ response, reply = .respond response) ∨
      (endsLoop depth line = true ∧ ∃ id?, reply = .stop id?) := by
  obtain ⟨s, hrun, rfl⟩ := h ⟨before, [], none⟩ rfl
  have hreading := reading_handleLine depth line
  generalize handleLine depth line = q at hreading hrun
  cases hreading with
  | unreadable hread hkind =>
      cases hrun
      exact .inl ⟨_, hread, hkind, rfl, rfl⟩
  | malformed hnone =>
      cases hrun
      exact .inr (.inl ⟨by simp [endsLoop, hnone], _, rfl⟩)
  | stop hrequest hstop =>
      cases hrun
      exact .inr (.inr ⟨by simp [endsLoop, hrequest, hstop], _, rfl⟩)
  | @task request hrequest hstop =>
      obtain ⟨response, s', hanswer⟩ := Succeeds.answer request c ⟨before, [], none⟩
      rw [Query.run_bind, hanswer] at hrun
      cases hrun
      exact .inr (.inl ⟨by simp [endsLoop, hrequest, hstop], response, rfl⟩)

/-- A turn of the loop gives the same reply, as far as it can be written. -/
theorem run_turn {s : State} (h : Handles depth c s.caches line reply after) (newId : Nat → String)
    (handled : Nat) :
    ∃ s',
      (turn depth newId handled line).run c s = (.ok reply.checked, s') ∧ s'.caches = after := by
  obtain ⟨t, hrun, hcaches⟩ := h { s with requestId? := some (newId handled) } rfl
  have hmodify : ∀ (f : State → State) (s : State),
      Query.run (modify f) c s = (.ok PUnit.unit, f s) := fun _ _ => rfl
  simp only [turn, asRequest, Query.run_bind, hmodify, hrun]
  cases reply.checked with
  | respond response => exact ⟨_, rfl, hcaches⟩
  | stop id? => exact ⟨_, rfl, hcaches⟩
  | breakOff cause => exact ⟨_, rfl, hcaches⟩

end Handles

end AsmNavigator.Serve
