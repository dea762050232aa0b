import AsmNavigator.Proofs.Serve.Handling

/-! # The loop answers line by line

Which lines the loop attends to can be told from the lines alone: those that are not
blank, as far as the first valid request to stop. `Served` says what becomes of them: each
gets the response that its handling gives on the caches the lines before it have left,
until one of them interrupts the loop. That takes a line on which the reader gives up or a
response that cannot be encoded; nothing else ends the loop early, no fault included.
-/

namespace AsmNavigator.Serve

open Session

variable {depth : Nat}

/-! ## The lines that count -/

/-- The lines that are not blank, without the blanks around them. -/
def spoken (lines : List String) : List String := (lines.map Text.trim).filter (· ≠ "")

/-- The lines as far as the first that ends the loop. -/
def throughStop (depth : Nat) : List String → List String
  | [] => []
  | line :: rest => if endsLoop depth line then [line] else line :: throughStop depth rest

/-- The lines that the loop is to answer. -/
def attended (depth : Nat) (lines : List String) : List String := throughStop depth (spoken lines)

theorem spoken_cons_of_blank {line : String} (h : Text.trim line = "") (rest : List String) :
    spoken (line :: rest) = spoken rest := by
  simp [spoken, h]

theorem spoken_cons {line : String} (h : Text.trim line ≠ "") (rest : List String) :
    spoken (line :: rest) = Text.trim line :: spoken rest := by
  simp [spoken, h]

/-! ## Answers and interruptions -/

def Responds (depth : Nat) (c : Context) (before : Caches) (line : String) (response : Response)
    (after : Caches) : Prop :=
  ∃ reply, Handles depth c before line reply after ∧ reply.response? = some response ∧
    response.unencodable? = none

/-- A line that ends the loop without a response. -/
inductive Interrupts (depth : Nat) (c : Context) (before : Caches) (line : String) :
    Interruption → Caches → Prop where
  | unreadable {fault : Json.Fault} :
      readLine depth line = .error fault → fault.kind?.isSome = true →
      Interrupts depth c before line (.unreadable fault) before
  | unwritable {reply : Reply} {response : Response} {run : Text.SurrogateRun}
      {after : Caches} :
      Handles depth c before line reply after → reply.response? = some response →
      response.unencodable? = some run →
      Interrupts depth c before line (.unwritable run) after

/-- What becomes of lines one after the other, from the caches before the first of them to
those after the last: which lines get which responses, and what interrupts the loop. -/
inductive Served (depth : Nat) (c : Context) :
    Caches → List String → List (String × Response) → Option Interruption → Caches → Prop where
  | finished {caches : Caches} : Served depth c caches [] [] none caches
  | answered {before between after : Caches} {line : String} {response : Response}
      {rest : List String} {transcript : List (String × Response)}
      {broken? : Option Interruption} :
      Responds depth c before line response between →
      Served depth c between rest transcript broken? after →
      Served depth c before (line :: rest) ((line, response) :: transcript) broken? after
  | interrupted {before after : Caches} {line : String} {rest : List String}
      {cause : Interruption} :
      Interrupts depth c before line cause after →
      Served depth c before (line :: rest) [] (some cause) after

theorem Reply.checked_eq_self {reply : Reply} {response : Response}
    (h : reply.response? = some response) (hencodable : response.unencodable? = none) :
    reply.checked = reply := by
  simp [Reply.checked, h, hencodable]

theorem Reply.checked_eq_breakOff {reply : Reply} {response : Response}
    {run : Text.SurrogateRun} (h : reply.response? = some response)
    (hrun : response.unencodable? = some run) : reply.checked = .breakOff (.unwritable run) := by
  simp [Reply.checked, h, hrun]

/-- A line is answered or it interrupts the loop. -/
theorem Handles.responds_or_interrupts {c : Context} {before after : Caches} {line : String}
    {reply : Reply} (h : Handles depth c before line reply after) :
    (∃ response, reply.response? = some response ∧ reply.checked = reply ∧
        Responds depth c before line response after) ∨
      ∃ cause, reply.checked = .breakOff cause ∧ Interrupts depth c before line cause after := by
  cases hresponse : reply.response? with
  | none =>
      obtain ⟨fault, hread, hkind, rfl, rfl⟩ | ⟨-, response, rfl⟩ | ⟨-, id?, rfl⟩ := h.reply_cases
      · exact .inr ⟨.unreadable fault, rfl, .unreadable hread hkind⟩
      · cases hresponse
      · cases hresponse
  | some response =>
      cases hencodable : response.unencodable? with
      | none =>
          have hchecked := Reply.checked_eq_self hresponse hencodable
          exact .inl ⟨response, rfl, hchecked, reply, h, hresponse, hencodable⟩
      | some run =>
          have hchecked := Reply.checked_eq_breakOff hresponse hencodable
          exact .inr ⟨_, hchecked, .unwritable h hresponse hencodable⟩

section

variable {c : Context} {before after after' : Caches} {line : String}
  {response response' : Response} {cause cause' : Interruption}

theorem Responds.handles (h : Responds depth c before line response after) :
    ∃ reply, Handles depth c before line reply after ∧ reply.checked.response? = some response := by
  obtain ⟨reply, hhandles, hresponse, hencodable⟩ := h
  refine ⟨reply, hhandles, ?_⟩
  rw [Reply.checked_eq_self hresponse hencodable, hresponse]

theorem Interrupts.handles (h : Interrupts depth c before line cause after) :
    ∃ reply, Handles depth c before line reply after ∧ reply.checked = .breakOff cause := by
  cases h with
  | @unreadable fault hread hkind =>
      refine ⟨.breakOff (.unreadable fault), .of_eq_pure ?_, rfl⟩
      simp [handleLine, hread, hkind]
  | unwritable hhandles hresponse hrun =>
      exact ⟨_, hhandles, Reply.checked_eq_breakOff hresponse hrun⟩

theorem Responds.unique (h : Responds depth c before line response after)
    (h' : Responds depth c before line response' after') :
    response = response' ∧ after = after' := by
  obtain ⟨reply, hhandles, hresponse⟩ := h.handles
  obtain ⟨reply', hhandles', hresponse'⟩ := h'.handles
  obtain ⟨rfl, hafter⟩ := hhandles.unique hhandles'
  rw [hresponse] at hresponse'
  exact ⟨Option.some.inj hresponse', hafter⟩

theorem Responds.not_interrupts (h : Responds depth c before line response after) :
    ¬ Interrupts depth c before line cause after' := by
  intro h'
  obtain ⟨reply, hhandles, hresponse⟩ := h.handles
  obtain ⟨reply', hhandles', hbreak⟩ := h'.handles
  obtain ⟨rfl, -⟩ := hhandles.unique hhandles'
  rw [hbreak] at hresponse
  cases hresponse

theorem Interrupts.unique (h : Interrupts depth c before line cause after)
    (h' : Interrupts depth c before line cause' after') : cause = cause' ∧ after = after' := by
  obtain ⟨reply, hhandles, hbreak⟩ := h.handles
  obtain ⟨reply', hhandles', hbreak'⟩ := h'.handles
  obtain ⟨rfl, hafter⟩ := hhandles.unique hhandles'
  rw [hbreak] at hbreak'
  exact ⟨Reply.breakOff.inj hbreak', hafter⟩

end

/-! ## The loop -/

section

variable {c : Context} {newId : Nat → String} {handled : Nat} {s t : State} {line : String}
  {rest : List String}

/-- One turn of the loop: the line is answered, and it may be a request to stop, or it
interrupts the loop. -/
theorem turn_cases (depth : Nat) (c : Context) (newId : Nat → String) (handled : Nat) (s : State)
    (line : String) :
    ∃ t : State,
      (∃ response, (turn depth newId handled line).run c s = (.ok (.respond response), t) ∧
          endsLoop depth line = false ∧ Responds depth c s.caches line response t.caches) ∨
        (∃ id?, (turn depth newId handled line).run c s = (.ok (.stop id?), t) ∧
          endsLoop depth line = true ∧ Responds depth c s.caches line { id? } t.caches) ∨
        ∃ cause, (turn depth newId handled line).run c s = (.ok (.breakOff cause), t) ∧
          Interrupts depth c s.caches line cause t.caches := by
  obtain ⟨reply, after, hhandles⟩ := exists_handles depth c s.caches line
  obtain ⟨t, hturn, rfl⟩ := hhandles.run_turn newId handled
  refine ⟨t, ?_⟩
  obtain ⟨response, hresponse, hchecked, hresponds⟩ | ⟨cause, hchecked, hinterrupts⟩ :=
    hhandles.responds_or_interrupts
  · rw [hchecked] at hturn
    obtain ⟨fault, -, -, rfl, -⟩ | ⟨hends, response', rfl⟩ | ⟨hends, id?, rfl⟩ :=
      hhandles.reply_cases
    · cases hresponse
    · cases hresponse
      exact .inl ⟨response, hturn, hends, hresponds⟩
    · cases hresponse
      exact .inr (.inl ⟨id?, hturn, hends, hresponds⟩)
  · rw [hchecked] at hturn
    exact .inr (.inr ⟨cause, hturn, hinterrupts⟩)

theorem serveFrom_blank (h : Text.trim line = "") :
    serveFrom depth newId handled (line :: rest) = serveFrom depth newId handled rest := by
  simp only [serveFrom, h, if_true]

theorem serveFrom_respond (h : Text.trim line ≠ "") {response : Response}
    (hturn : (turn depth newId handled (Text.trim line)).run c s = (.ok (.respond response), t)) :
    (serveFrom depth newId handled (line :: rest)).run c s =
      Query.run (do return (← serveFrom depth newId (handled + 1) rest).cons response) c t := by
  simp only [serveFrom, h, if_false, Query.run_bind, hturn]

theorem serveFrom_stop (h : Text.trim line ≠ "") {id? : Option RequestId}
    (hturn : (turn depth newId handled (Text.trim line)).run c s = (.ok (.stop id?), t)) :
    (serveFrom depth newId handled (line :: rest)).run c s =
      (.ok { responses := [{ id? }], handled := handled + 1 }, t) := by
  simp only [serveFrom, h, if_false, Query.run_bind, hturn]
  rfl

theorem serveFrom_breakOff (h : Text.trim line ≠ "") {cause : Interruption}
    (hturn : (turn depth newId handled (Text.trim line)).run c s = (.ok (.breakOff cause), t)) :
    (serveFrom depth newId handled (line :: rest)).run c s =
      (.ok { responses := [], handled, broken? := some cause }, t) := by
  simp only [serveFrom, h, if_false, Query.run_bind, hturn]
  rfl

theorem attended_cons (h : Text.trim line ≠ "") :
    attended depth (line :: rest) =
      if endsLoop depth (Text.trim line) then [Text.trim line]
      else Text.trim line :: attended depth rest := by
  rw [attended, spoken_cons h, throughStop, attended]

end

theorem run_serveFrom (depth : Nat) (c : Context) (newId : Nat → String) (handled : Nat) (s : State)
    (lines : List String) :
    ∃ transcript broken? s',
      (serveFrom depth newId handled lines).run c s =
        (.ok ⟨transcript.map Prod.snd, handled + transcript.length, broken?⟩, s') ∧
      Served depth c s.caches (attended depth lines) transcript broken? s'.caches := by
  induction lines generalizing handled s with
  | nil => exact ⟨[], none, s, rfl, .finished⟩
  | cons line rest ih =>
      by_cases hblank : Text.trim line = ""
      · rw [serveFrom_blank hblank, attended, spoken_cons_of_blank hblank]
        exact ih handled s
      rw [attended_cons hblank]
      obtain ⟨t, ⟨response, hturn, hends, hresponds⟩ | ⟨id?, hturn, hends, hresponds⟩ |
        ⟨cause, hturn, hinterrupts⟩⟩ := turn_cases depth c newId handled s (Text.trim line)
      · -- an answer: the loop goes on with the caches that it leaves
        obtain ⟨transcript, broken?, s', hrest, hserved⟩ := ih (handled + 1) t
        refine ⟨(Text.trim line, response) :: transcript, broken?, s', ?_, ?_⟩
        · have hcount : handled + 1 + transcript.length = handled + (transcript.length + 1) := by
            omega
          rw [serveFrom_respond hblank hturn, Query.run_bind, hrest, hcount]
          rfl
        · rw [hends]
          exact .answered hresponds hserved
      · -- a request to stop is acknowledged, and the lines after it are left alone
        refine ⟨[(Text.trim line, { id? })], none, t, serveFrom_stop hblank hturn, ?_⟩
        rw [hends]
        exact .answered hresponds .finished
      · refine ⟨[], some cause, t, serveFrom_breakOff hblank hturn, ?_⟩
        split
        · exact .interrupted hinterrupts
        · exact .interrupted hinterrupts

theorem run_serveFrom_append (depth : Nat) (c : Context) (newId : Nat → String)
    {lines : List String} (h : (spoken lines).any (endsLoop depth) = true) (more : List String)
    (handled : Nat) (s : State) :
    (serveFrom depth newId handled (lines ++ more)).run c s =
      (serveFrom depth newId handled lines).run c s := by
  induction lines generalizing handled s with
  | nil => cases h
  | cons line rest ih =>
      rw [List.cons_append]
      by_cases hblank : Text.trim line = ""
      · rw [serveFrom_blank hblank, serveFrom_blank hblank]
        rw [spoken_cons_of_blank hblank] at h
        exact ih h handled s
      obtain ⟨t, ⟨response, hturn, hends, -⟩ | ⟨id?, hturn, -⟩ | ⟨cause, hturn, -⟩⟩ :=
        turn_cases depth c newId handled s (Text.trim line)
      · rw [spoken_cons hblank, List.any_cons, hends, Bool.false_or] at h
        rw [serveFrom_respond hblank hturn, serveFrom_respond hblank hturn, Query.run_bind,
          Query.run_bind, ih h]
      · rw [serveFrom_stop hblank hturn, serveFrom_stop hblank hturn]
      · rw [serveFrom_breakOff hblank hturn, serveFrom_breakOff hblank hturn]

/-! ## Whole runs -/

namespace Served

variable {c : Context} {before after after' : Caches} {lines : List String}
  {transcript transcript' : List (String × Response)} {broken? broken?' : Option Interruption}

theorem unique (h : Served depth c before lines transcript broken? after)
    (h' : Served depth c before lines transcript' broken?' after') :
    transcript = transcript' ∧ broken? = broken?' ∧ after = after' := by
  induction h generalizing transcript' broken?' after' with
  | finished =>
      cases h'
      exact ⟨rfl, rfl, rfl⟩
  | answered hresponds _ ih =>
      cases h' with
      | interrupted hinterrupts => exact absurd hinterrupts hresponds.not_interrupts
      | answered hresponds' hrest' =>
          obtain ⟨rfl, rfl⟩ := hresponds.unique hresponds'
          obtain ⟨rfl, rfl, rfl⟩ := ih hrest'
          exact ⟨rfl, rfl, rfl⟩
  | interrupted hinterrupts =>
      cases h' with
      | answered hresponds' _ => exact absurd hinterrupts hresponds'.not_interrupts
      | interrupted hinterrupts' =>
          obtain ⟨rfl, rfl⟩ := hinterrupts.unique hinterrupts'
          exact ⟨rfl, rfl, rfl⟩

theorem lines_eq (h : Served depth c before lines transcript none after) :
    transcript.map Prod.fst = lines := by
  generalize hnone : none = broken? at h
  induction h with
  | finished => rfl
  | answered _ _ ih => rw [List.map_cons, ih hnone]
  | interrupted _ => cases hnone

theorem exists_interrupts {cause : Interruption}
    (h : Served depth c before lines transcript (some cause) after) :
    ∃ between line rest, lines = transcript.map Prod.fst ++ line :: rest ∧
      Interrupts depth c between line cause after := by
  generalize hsome : some cause = broken? at h
  induction h with
  | finished => cases hsome
  | answered _ _ ih =>
      obtain ⟨between, line, rest, hlines, hinterrupts⟩ := ih hsome
      exact ⟨between, line, rest, congrArg _ hlines, hinterrupts⟩
  | interrupted hinterrupts =>
      cases hsome
      exact ⟨_, _, _, rfl, hinterrupts⟩

end Served

/-- The loop ends without a fault, and it counts the responses that it writes. They answer
the lines it attends to, the first the first one and so on: all of these lines, unless one
of them interrupts the loop, and then those before it. Lines after a request to stop are
not read. -/
theorem serve_answers_attended (depth : Nat) (c : Context) (newId : Nat → String) (s : State)
    (lines : List String) :
    ∃ transcript broken? s',
      (serve depth newId lines).run c s =
          (.ok ⟨transcript.map Prod.snd, transcript.length, broken?⟩, s') ∧
        Served depth c s.caches (attended depth lines) transcript broken? s'.caches ∧
        (match broken? with
          | none => transcript.map Prod.fst = attended depth lines
          | some cause => ∃ between line rest,
              attended depth lines = transcript.map Prod.fst ++ line :: rest ∧
                Interrupts depth c between line cause s'.caches) ∧
        ((spoken lines).any (endsLoop depth) = true →
          ∀ more,
            (serve depth newId (lines ++ more)).run c s = (serve depth newId lines).run c s) := by
  obtain ⟨transcript, broken?, s', hrun, hserved⟩ := run_serveFrom depth c newId 0 s lines
  rw [Nat.zero_add] at hrun
  refine ⟨transcript, broken?, s', hrun, hserved, ?_, ?_⟩
  · cases broken? with
    | none => exact hserved.lines_eq
    | some cause => exact hserved.exists_interrupts
  · intro hstop more
    exact run_serveFrom_append depth c newId hstop more 0 s

end AsmNavigator.Serve
