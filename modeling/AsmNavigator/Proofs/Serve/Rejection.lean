import AsmNavigator.Proofs.Serve.Conversation

/-! # Rejected lines have no effect

A line is rejected if no session need be asked about it: it is no JSON or no object, its
fields are refused, its method is not known, or it lacks what its method needs. Its
response is a function of the line alone, and the caches stay as they are. So a run of the
loop with rejected lines in it is, but for their responses, the run without them.
-/

namespace AsmNavigator.Serve

open Session

variable {depth : Nat}

/-! ## Rejected lines -/

def Request.hasPath (request : Request) : Bool := request.path?.any (· ≠ "")

def Request.hasPosition (request : Request) : Bool :=
  request.line?.isSome && request.character?.isSome

/-- Whether the method of a request is known and has what it needs. -/
def Request.isComplete (request : Request) : Bool :=
  match request.method with
  | "definition" => request.hasPath && request.hasPosition
  | "hover" => request.hasPath && request.hasPosition
  | "didChange" => request.hasPath
  | "clear" => true
  | "shutdown" => true
  | _ => false

/-- Whether a line that is not blank is turned down as it stands. A line on which the
reader gives up is not: it gets no response at all. -/
def isRejected (depth : Nat) (line : String) : Bool :=
  match readLine depth line with
  | .error fault => fault.kind?.isNone
  | .ok (.map entries) =>
      match Request.ofEntries entries with
      | .valid request => !request.isComplete
      | _ => true
  | .ok _ => true

/-- The lines that are neither blank nor rejected. -/
def accepted (depth : Nat) (lines : List String) : List String :=
  (spoken lines).filter (!isRejected depth ·)

/-- A response without a result that reports a malformed request or an unknown method. -/
structure Response.IsRefusal (response : Response) : Prop where
  result : response.result = .null
  error : ∃ report, response.error? = some report ∧ (report.code = 3001 ∨ report.code = 3002)

theorem isRejected_of_request? {line : String} {request : Request}
    (h : request? depth line = some request) : isRejected depth line = !request.isComplete := by
  unfold request? at h
  unfold isRejected
  split at h
  · split at h
    · cases h
      simp only [*]
    · cases h
  · cases h

theorem isRejected_of_unreadable {line : String} {fault : Json.Fault}
    (h : readLine depth line = .error fault) (hkind : fault.kind?.isSome = true) :
    isRejected depth line = false := by
  simpa [isRejected, h] using hkind

theorem requirePath_cases (request : Request) :
    (request.hasPath = true ∧ ∃ path, request.requirePath = .ok path) ∨
      (request.hasPath = false ∧
        ∃ reason details, request.requirePath = .error (.malformedRequest reason details)) := by
  unfold Request.requirePath Request.hasPath
  cases request.path? with
  | none => exact .inr ⟨rfl, _, _, rfl⟩
  | some path =>
      by_cases hempty : path = ""
      · subst hempty
        exact .inr ⟨rfl, _, _, rfl⟩
      · simp [Option.filter_some, hempty]

theorem requirePosition_cases (request : Request) :
    (request.hasPosition = true ∧ ∃ position, request.requirePosition = .ok position) ∨
      (request.hasPosition = false ∧
        ∃ reason details,
          request.requirePosition = .error (.malformedRequest reason details)) := by
  unfold Request.requirePosition Request.hasPosition
  cases request.line? with
  | none => exact .inr ⟨rfl, _, _, rfl⟩
  | some line =>
      cases request.character? with
      | none => exact .inr ⟨rfl, _, _, rfl⟩
      | some character => exact .inl ⟨rfl, _, rfl⟩

/-- A method that needs a path and a position fails on the first that is missing. -/
theorem positioned_error {request : Request} (h : (request.hasPath && request.hasPosition) = false)
    (next : Path → Int × Int → Except Report Task) :
    ∃ reason details,
      (request.requirePath >>= fun path => request.requirePosition >>= next path) =
        .error (.malformedRequest reason details) := by
  obtain ⟨hpath, path, hrequire⟩ | ⟨-, reason, details, hrequire⟩ := requirePath_cases request
  · rw [hpath, Bool.true_and] at h
    obtain ⟨hposition, -⟩ | ⟨-, reason, details, hrequire'⟩ := requirePosition_cases request
    · rw [hposition] at h
      cases h
    · exact ⟨reason, details, by rw [hrequire, hrequire']; rfl⟩
  · exact ⟨reason, details, by rw [hrequire]; rfl⟩

theorem task_of_not_isComplete {request : Request} (h : request.isComplete = false) :
    ∃ report, request.task = .error report ∧ (report.code = 3001 ∨ report.code = 3002) := by
  unfold Request.isComplete at h
  unfold Request.task
  split
  · next hmethod =>
      simp only [hmethod] at h
      obtain ⟨reason, details, herror⟩ := positioned_error h _
      exact ⟨_, herror, .inl rfl⟩
  · next hmethod =>
      simp only [hmethod] at h
      obtain ⟨reason, details, herror⟩ := positioned_error h _
      exact ⟨_, herror, .inl rfl⟩
  · next hmethod =>
      simp only [hmethod] at h
      obtain ⟨hpath, -⟩ | ⟨-, reason, details, herror⟩ := requirePath_cases request
      · rw [hpath] at h
        cases h
      · exact ⟨_, by rw [herror]; rfl, .inl rfl⟩
  · next hmethod => simp [hmethod] at h
  · exact ⟨_, rfl, .inr rfl⟩

/-- A rejected line is refused whatever the session, which is not asked. -/
theorem exists_refusal {line : String} (h : isRejected depth line = true) :
    ∃ response, handleLine depth line = pure (.respond response) ∧ response.IsRefusal := by
  have hreading := reading_handleLine depth line
  generalize handleLine depth line = q at hreading
  cases hreading with
  | unreadable hread hkind =>
      rw [isRejected_of_unreadable hread hkind] at h
      cases h
  | malformed => exact ⟨_, rfl, rfl, _, rfl, .inl rfl⟩
  | stop hrequest hstop =>
      rw [isRejected_of_request? hrequest, Request.isComplete, hstop] at h
      cases h
  | task hrequest hstop =>
      rw [isRejected_of_request? hrequest, Bool.not_eq_true'] at h
      obtain ⟨report, htask, hcode⟩ := task_of_not_isComplete h
      simp only [answer, htask, pure_bind]
      exact ⟨_, rfl, rfl, report, rfl, hcode⟩

theorem isRejected_eq_false_of_endsLoop {line : String} (h : endsLoop depth line = true) :
    isRejected depth line = false := by
  unfold endsLoop at h
  cases hrequest : request? depth line with
  | none => simp [hrequest] at h
  | some request =>
      have hstop : request.method = stopMethod := by simpa [hrequest] using h
      rw [isRejected_of_request? hrequest, Request.isComplete, hstop]
      rfl

/-! ## Runs without them -/

/-- If a line is rejected, its response can be written. -/
def WritesRefusal (depth : Nat) (line : String) : Prop :=
  isRejected depth line = true →
    ∀ response, handleLine depth line = pure (.respond response) → response.unencodable? = none

theorem filter_throughStop {keep : String → Bool}
    (h : ∀ line, endsLoop depth line = true → keep line = true) (lines : List String) :
    (throughStop depth lines).filter keep = throughStop depth (lines.filter keep) := by
  induction lines with
  | nil => rfl
  | cons line rest ih =>
      by_cases hends : endsLoop depth line = true
      · simp [throughStop, hends, h line hends]
      · by_cases hkeep : keep line = true
        · simp [throughStop, hends, hkeep, ih]
        · simp [throughStop, hends, hkeep, ih]

section

variable {c : Context} {before after : Caches} {line : String} {response : Response}
  {cause : Interruption}

theorem Responds.of_isRejected (h : Responds depth c before line response after)
    (hrejected : isRejected depth line = true) : response.IsRefusal ∧ after = before := by
  obtain ⟨refusal, hpure, hrefusal⟩ := exists_refusal hrejected
  obtain ⟨reply, hhandles, hresponse, -⟩ := h
  obtain ⟨rfl, hafter⟩ := hhandles.unique (.of_eq_pure hpure)
  cases hresponse
  exact ⟨hrefusal, hafter⟩

theorem Interrupts.isRejected_eq_false (h : Interrupts depth c before line cause after)
    (hwrites : WritesRefusal depth line) : isRejected depth line = false := by
  cases h with
  | unreadable hread hkind => exact isRejected_of_unreadable hread hkind
  | unwritable hhandles hresponse hrun =>
      rw [Bool.eq_false_iff]
      intro hrejected
      obtain ⟨refusal, hpure, -⟩ := exists_refusal hrejected
      obtain ⟨rfl, -⟩ := hhandles.unique (.of_eq_pure hpure)
      cases hresponse
      rw [hwrites hrejected _ hpure] at hrun
      cases hrun

end

namespace Served

variable {c : Context} {before after : Caches} {lines : List String}
  {transcript : List (String × Response)} {broken? : Option Interruption}

/-- Without the rejected lines everything else is as it was. -/
theorem accepted (h : Served depth c before lines transcript broken? after)
    (hwrites : ∀ line ∈ lines, WritesRefusal depth line) :
    Served depth c before (lines.filter (!isRejected depth ·))
      (transcript.filter (!isRejected depth ·.1)) broken? after := by
  induction h with
  | finished => exact .finished
  | @answered before between after line response rest transcript broken? hresponds _ ih =>
      have hrest := ih fun line hline => hwrites line (List.mem_cons_of_mem _ hline)
      cases hrejected : isRejected depth line with
      | true =>
          obtain ⟨-, rfl⟩ := hresponds.of_isRejected hrejected
          simpa [hrejected] using hrest
      | false =>
          simp only [List.filter_cons, hrejected, Bool.not_false, if_true]
          exact .answered hresponds hrest
  | @interrupted before after line rest cause hinterrupts =>
      have hrejected := hinterrupts.isRejected_eq_false (hwrites line List.mem_cons_self)
      simp only [List.filter_cons, hrejected, Bool.not_false, if_true]
      exact .interrupted hinterrupts

theorem isRefusal (h : Served depth c before lines transcript broken? after) :
    ∀ entry ∈ transcript, isRejected depth entry.1 = true → entry.2.IsRefusal := by
  induction h with
  | finished => simp
  | answered hresponds _ ih =>
      intro entry hmem hrejected
      rcases List.mem_cons.mp hmem with rfl | hmem
      · exact (hresponds.of_isRejected hrejected).1
      · exact ih entry hmem hrejected
  | interrupted _ => simp

end Served

/-- How a run treats the rejected lines that it attends to: each has its response, which is
a refusal, and none of them ends the run. -/
structure AnswersRejected (depth : Nat) (lines : List String)
    (transcript : List (String × Response)) (broken? : Option Interruption) : Prop where
  lines : match broken? with
    | none => transcript.map Prod.fst = attended depth lines
    | some _ => ∃ line rest, attended depth lines = transcript.map Prod.fst ++ line :: rest ∧
        isRejected depth line = false
  refusals : ∀ entry ∈ transcript, isRejected depth entry.1 = true → entry.2.IsRefusal

theorem Served.answersRejected {c : Context} {before after : Caches} {lines : List String}
    {transcript : List (String × Response)} {broken? : Option Interruption}
    (h : Served depth c before (attended depth lines) transcript broken? after)
    (hwrites : ∀ line ∈ attended depth lines, WritesRefusal depth line) :
    AnswersRejected depth lines transcript broken? := by
  refine ⟨?_, h.isRefusal⟩
  cases broken? with
  | none => exact h.lines_eq
  | some cause =>
      obtain ⟨between, line, rest, hlines, hinterrupts⟩ := h.exists_interrupts
      have hmem : line ∈ attended depth lines := by
        rw [hlines]
        exact List.mem_append_right _ List.mem_cons_self
      exact ⟨line, rest, hlines, hinterrupts.isRejected_eq_false (hwrites line hmem)⟩

/-- Every run of the loop is, less its rejected lines, the run on the accepted ones. -/
theorem run_serve_accepted (depth : Nat) (c : Context) (newId : Nat → String) (s : State)
    {lines : List String} (hwrites : ∀ line ∈ attended depth lines, WritesRefusal depth line) :
    ∃ transcript broken? s',
      (serve depth newId lines).run c s =
          (.ok ⟨transcript.map Prod.snd, transcript.length, broken?⟩, s') ∧
        AnswersRejected depth lines transcript broken? ∧
        Served depth c s.caches (throughStop depth (accepted depth lines))
          (transcript.filter (!isRejected depth ·.1)) broken? s'.caches := by
  obtain ⟨transcript, broken?, s', hrun, hserved⟩ := run_serveFrom depth c newId 0 s lines
  rw [Nat.zero_add] at hrun
  refine ⟨transcript, broken?, s', hrun, hserved.answersRejected hwrites, ?_⟩
  have hstops : ∀ line, endsLoop depth line = true → (!isRejected depth line) = true := by
    intro line hends
    rw [isRejected_eq_false_of_endsLoop hends]
    rfl
  rw [accepted, ← filter_throughStop hstops]
  exact hserved.accepted hwrites

/-- Rejected lines have no effect. Two runs on caches of the same content, over lines that
are the same but for rejected and blank ones, give the same responses to all other lines
in the same order, end in the same way and leave the same in the caches. Each rejected
line that they attend to has its response, which is a refusal. -/
theorem serve_of_accepted_eq (depth : Nat) (c : Context) (newId newId' : Nat → String) {s t : State}
    (hcaches : s.caches = t.caches) {lines lines' : List String}
    (haccepted : accepted depth lines = accepted depth lines')
    (hwrites : ∀ line ∈ attended depth lines, WritesRefusal depth line)
    (hwrites' : ∀ line ∈ attended depth lines', WritesRefusal depth line) :
    ∃ transcript transcript' broken? s' t',
      (serve depth newId lines).run c s =
          (.ok ⟨transcript.map Prod.snd, transcript.length, broken?⟩, s') ∧
        (serve depth newId' lines').run c t =
          (.ok ⟨transcript'.map Prod.snd, transcript'.length, broken?⟩, t') ∧
        s'.caches = t'.caches ∧
        transcript.filter (!isRejected depth ·.1) = transcript'.filter (!isRejected depth ·.1) ∧
        AnswersRejected depth lines transcript broken? ∧
        AnswersRejected depth lines' transcript' broken? := by
  obtain ⟨transcript, broken?, s', hrun, hrejected, hserved⟩ :=
    run_serve_accepted depth c newId s hwrites
  obtain ⟨transcript', broken?', t', hrun', hrejected', hserved'⟩ :=
    run_serve_accepted depth c newId' t hwrites'
  rw [← hcaches, ← haccepted] at hserved'
  obtain ⟨htranscript, rfl, hafter⟩ := hserved.unique hserved'
  exact ⟨transcript, transcript', broken?, s', t', hrun, hrun', hafter, htranscript, hrejected,
    hrejected'⟩

def emptyWorkspace : Context where
  world := { tree := ⟨.empty⟩, env := ⟨.empty, ⟨.slash, []⟩, [], 0⟩ }
  settings := {}
  registryRoot? := none

def clearLine : String := "\x7b\"method\":\"clear\"\x7d"

def noisyLines : List String := [" ", "[]", clearLine]

def calmLines : List String := [clearLine]

theorem isRejected_clear : isRejected 100 clearLine = false := by decide +kernel

theorem endsLoop_clear : endsLoop 100 clearLine = false := by decide +kernel

theorem spoken_noisyLines : spoken noisyLines = ["[]", clearLine] := by decide +kernel

theorem spoken_calmLines : spoken calmLines = [clearLine] := by decide +kernel

theorem writesRefusal_noisyLines : ∀ line ∈ attended 100 noisyLines, WritesRefusal 100 line := by
  have hattended : attended 100 noisyLines = ["[]", clearLine] := by
    have hends : endsLoop 100 "[]" = false := by decide +kernel
    simp [attended, spoken_noisyLines, throughStop, endsLoop_clear, hends]
  have hlist : handleLine 100 "[]" = pure (refuse none "request must be an object" []) := by
    have hread : readLine 100 "[]" = .ok (.list []) := rfl
    simp only [handleLine, hread]
  intro line hline hrejected response hpure
  rw [hattended, List.mem_cons, List.mem_singleton] at hline
  rcases hline with hline | hline
  · rw [hline, hlist] at hpure
    cases congrArg (fun q : Query Reply => (q.run emptyWorkspace .start).1) hpure
    rfl
  · rw [hline, isRejected_clear] at hrejected
    cases hrejected

theorem writesRefusal_calmLines : ∀ line ∈ attended 100 calmLines, WritesRefusal 100 line := by
  have hattended : attended 100 calmLines = [clearLine] := by
    simp [attended, spoken_calmLines, throughStop, endsLoop_clear]
  intro line hline hrejected
  rw [hattended, List.mem_singleton] at hline
  rw [hline, isRejected_clear] at hrejected
  cases hrejected

theorem serve_noisyLines :
    accepted 100 noisyLines = accepted 100 calmLines ∧
      (∀ line ∈ attended 100 noisyLines, WritesRefusal 100 line) ∧
      (∀ line ∈ attended 100 calmLines, WritesRefusal 100 line) ∧
      ∃ transcript transcript' broken? s' t',
        (serve 100 toString noisyLines).run emptyWorkspace .start =
            (.ok ⟨transcript.map Prod.snd, transcript.length, broken?⟩, s') ∧
          (serve 100 toString calmLines).run emptyWorkspace .start =
            (.ok ⟨transcript'.map Prod.snd, transcript'.length, broken?⟩, t') ∧
          s'.caches = t'.caches ∧
          transcript.filter (!isRejected 100 ·.1) = transcript'.filter (!isRejected 100 ·.1) ∧
          AnswersRejected 100 noisyLines transcript broken? ∧
          AnswersRejected 100 calmLines transcript' broken? := by
  have haccepted : accepted 100 noisyLines = accepted 100 calmLines := by
    have hlist : isRejected 100 "[]" = true := by decide +kernel
    simp [accepted, spoken_noisyLines, spoken_calmLines, hlist]
  exact ⟨haccepted, writesRefusal_noisyLines, writesRefusal_calmLines,
    serve_of_accepted_eq 100 emptyWorkspace toString toString rfl haccepted
      writesRefusal_noisyLines writesRefusal_calmLines⟩

end AsmNavigator.Serve
