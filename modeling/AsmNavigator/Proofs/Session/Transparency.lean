import AsmNavigator.Proofs.Session.Settled

/-! # Caches do not show

A session answers every query as a session that has just begun would, however many
queries it has answered before and however these ended. Its caches hold what a
recomputation gives, and lose nothing.
-/

namespace AsmNavigator.Session

open Source Workspace

inductive Inquiry where
  | definition (path : Path) (line : String) (column : Int)
  | hover (path : Path) (line : String) (column : Int)
  | resolveImport (path : Path) (expression : String)
  | definitionIn (document : Document) (line column : Int)
  | hoverIn (document : Document) (line column : Int)
  | summaryOf (file : Path)
  | namespaceTable (root : Path)
  | namespaceNamed (root : Path) (name : String)
  | locateProcedure (file : Path) (name : String)
  | locateConstant (file : Path) (name : String)
  | findSource (file : Path) (name : String)

namespace Inquiry

def Answer : Inquiry → Type
  | definition .. => Option Location
  | hover .. => Option String
  | resolveImport .. => Option Path
  | definitionIn .. => Option Location
  | hoverIn .. => Option String
  | summaryOf _ => Summary
  | namespaceTable _ => NamespaceTable
  | namespaceNamed .. => Option NamespaceEntry
  | locateProcedure .. => Lookup
  | locateConstant .. => Lookup
  | findSource .. => Option Location

def query : (i : Inquiry) → Query i.Answer
  | definition path line column => Query.definition path line column
  | hover path line column => Query.hover path line column
  | resolveImport path expression => Query.resolveImport path expression
  | definitionIn document line column => Query.definitionIn document line column
  | hoverIn document line column => Query.hoverIn document line column
  | summaryOf file => Query.summaryOf file
  | namespaceTable root => Query.namespaceTable root
  | namespaceNamed root name => Query.namespaceNamed? root name
  | locateProcedure file name => Query.locateProcedure file name
  | locateConstant file name => Query.locateConstant file name
  | findSource file name => Query.findSource? file name

/-- The path that a navigation starts from. The other inquiries are no navigation. -/
def start? : Inquiry → Option Path
  | definition path .. => some path
  | hover path .. => some path
  | resolveImport path _ => some path
  | definitionIn document .. => some document.path
  | hoverIn document .. => some document.path
  | _ => none

/-- A navigation that starts in `K` is a query about files in `K`. -/
theorem guarded {c : Context} {K : Path → Prop} {E : String → Prop}
    {J : ∀ {α : Type}, Query α → (α → Prop) → Prop} (h : Guarded c K J)
    (hconfines : Confines c K E) {i : Inquiry} {path : Path} (hstart : i.start? = some path)
    (hk : K (c.world.absolute path)) : J i.query fun _ => True := by
  cases i with
  | definition path line column =>
      cases hstart
      exact h.definition hconfines hk line column
  | hover path line column =>
      cases hstart
      exact h.hover hconfines hk line column
  | resolveImport path expression =>
      cases hstart
      exact h.forget (h.resolveImport hk expression)
  | definitionIn document line column =>
      cases hstart
      refine h.bind h.read ?_
      rintro context rfl
      exact h.definition hconfines hk _ column
  | hoverIn document line column =>
      cases hstart
      refine h.bind h.read ?_
      rintro context rfl
      exact h.hover hconfines hk _ column
  | _ => cases hstart

theorem settled_of_start? {c : Context} {K : Path → Prop} {E : String → Prop}
    (h : Confines c K E) {i : Inquiry} {path : Path} (hstart : i.start? = some path)
    (hk : K (c.world.absolute path)) : Settled c K i.query :=
  (guarded (Settles.guarded h) h hstart hk).settled

theorem settled (c : Context) (i : Inquiry) : Settled c (fun _ => True) i.query := by
  have hconfines := Confines.trivial c
  have h := Settles.guarded hconfines
  cases i with
  | summaryOf file => exact (Answers.summaryOf True.intro).settled
  | namespaceTable root => exact (Answers.namespaceTable True.intro).settled
  | namespaceNamed root name => exact (Answers.namespaceNamed True.intro name).settled
  | locateProcedure file name => exact (h.locateProcedure True.intro name).settled
  | locateConstant file name => exact (h.scan .constant file name).settled
  | findSource file name => exact (h.findSource True.intro name).settled
  | _ => exact settled_of_start? hconfines rfl True.intro

end Inquiry

def sessionAfter (c : Context) (inquiries : List Inquiry) : State :=
  inquiries.foldl (fun state i => (i.query.run c state).2) .start

theorem agree_foldl (c : Context) (inquiries : List Inquiry) {state : State}
    (h : state.caches.Agree c fun _ => True) :
    (inquiries.foldl (fun state i => (i.query.run c state).2) state).caches.Agree c
      fun _ => True := by
  induction inquiries generalizing state with
  | nil => exact h
  | cons i rest ih =>
      obtain ⟨a, ha⟩ := i.settled c
      exact ih (ha state h).2.1

/-- Every entry is what a recomputation gives, a resolution under every local name. -/
structure Caches.Faithful (c : Context) (caches : Caches) : Prop where
  summaries : ∀ {file summary}, caches.summaries.get? file = some summary →
    summary = Summary.ofLines (Source.read c.world file).lines
  resolutions : ∀ {file expression resolved}, caches.resolutions.get? (file, expression) =
    some resolved → ∀ localName,
      ((Query.resolve file localName expression).run c .start).1 = .ok resolved
  namespaces : ∀ {root table}, caches.namespaces.get? root = some table →
    NamespaceTable.discover c.world c.settings.layout c.settings.registry root = .ok table

theorem Caches.Agree.faithful {c : Context} {K : Path → Prop} {caches : Caches}
    (h : caches.Agree c K) : caches.Faithful c where
  summaries hget := (h.summaries hget).2
  resolutions hget localName :=
    (freshResolution_eq _ localName _).trans (h.resolutions hget)
  namespaces hget := (h.namespaces hget).2

/-- After any queries the next one is answered as by a new session; the caches are faithful
then, and every entry that was there before is there still. -/
theorem run_sessionAfter (c : Context) (before : List Inquiry) (i : Inquiry) :
    (i.query.run c (sessionAfter c before)).1 = (i.query.run c .start).1 ∧
      (i.query.run c (sessionAfter c before)).2.caches.Faithful c ∧
      (sessionAfter c before).caches.Extends (i.query.run c (sessionAfter c before)).2.caches := by
  obtain ⟨a, ha⟩ := i.settled c
  have hstart : State.start.caches.Agree c fun _ => True := Caches.agree_empty c _
  obtain ⟨hanswer, hagree, hkeep⟩ := ha _ (agree_foldl c before hstart)
  exact ⟨hanswer.trans (ha .start hstart).1.symm, hagree.faithful, hkeep⟩

end AsmNavigator.Session
