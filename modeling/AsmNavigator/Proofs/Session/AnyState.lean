import AsmNavigator.Proofs.Session.Agreement
import AsmNavigator.Session.Navigate

/-! # Answers in every state

Some queries give the same answer whatever the session has cached, entries included that
are wrong by now: they read the file itself, or use a summary only for what they do not
find in it.
-/

namespace AsmNavigator.Session

open Source

/-- A query that succeeds has succeeded in its first part. -/
theorem exists_of_run_bind {c : Context} {x : Query α} {f : α → Query β} {s : State} {b : β}
    (h : ((x >>= f).run c s).1 = .ok b) :
    ∃ a s', (x.run c s).1 = .ok a ∧ ((f a).run c s').1 = .ok b := by
  rw [Query.run_bind] at h
  rcases hr : x.run c s with ⟨_ | a, s'⟩
  · rw [hr] at h
    cases h
  · rw [hr] at h
    exact ⟨a, s', rfl, h⟩

/-- A query gives the answer `a` in every state, whatever its caches hold. -/
def AnswersAlways (c : Context) (q : Query α) (a : Except Fault α) : Prop :=
  ∀ s : State, (q.run c s).1 = a

namespace AnswersAlways

variable {α β : Type} {c : Context}

theorem pure (a : α) : AnswersAlways c (Pure.pure a : Query α) (.ok a) := fun _ => rfl

theorem read : AnswersAlways c (MonadReader.read : Query Context) (.ok c) := fun _ => rfl

theorem debug (name : String) (fields : List (String × Value)) :
    AnswersAlways c (Query.debug name fields) (.ok ()) := fun _ => rfl

theorem bind_ok {x : Query α} {f : α → Query β} {v : α} {b : Except Fault β}
    (hx : AnswersAlways c x (.ok v)) (hf : AnswersAlways c (f v) b) :
    AnswersAlways c (x >>= f) b := by
  intro s
  have hanswer := hx s
  rw [Query.run_bind]
  rcases hr : x.run c s with ⟨outcome, s'⟩
  rw [hr] at hanswer
  simp only at hanswer
  subst hanswer
  exact hf s'

theorem readSource (file : Path) :
    AnswersAlways c (Query.readSource file) (.ok (Source.read c.world file)) := by
  refine read.bind_ok ?_
  simp only
  cases Source.read c.world file with
  | found lines => exact pure _
  | unreadable fault => exact (debug _ _).bind_ok (pure _)

theorem scan (kind : SymbolKind) (file : Path) (name : String) :
    AnswersAlways c (Query.scan kind file name)
      (.ok (definitionIn kind file name (Source.read c.world file))) :=
  (readSource file).bind_ok (pure _)

/-- A summary may be an old one, but there always is one. -/
theorem summaryOf_bind {file : Path} {f : Summary → Query β} {b : Except Fault β}
    (hf : ∀ summary, AnswersAlways c (f summary) b) :
    AnswersAlways c (Query.summaryOf file >>= f) b := by
  intro s
  have hsummary : ∃ summary s', (Query.summaryOf file).run c s = (.ok summary, s') := by
    unfold Query.summaryOf
    rw [Query.run_bind, Query.run_caches]
    simp only
    cases s.caches.summaries.get? file with
    | some summary => exact ⟨summary, s, rfl⟩
    | none =>
        have hlines := readSource (c := c) file s
        simp only
        rw [Query.run_bind]
        rcases hr : (Query.readSource file).run c s with ⟨outcome, s'⟩
        rw [hr] at hlines
        simp only at hlines
        subst hlines
        exact ⟨_, _, rfl⟩
  obtain ⟨summary, s', hrun⟩ := hsummary
  rw [Query.run_bind, hrun]
  exact hf summary s'

/-- Where a search of the file finds a procedure, nothing else is asked. -/
theorem locateProcedure {file : Path} {name : String} {place : Location}
    (h : definitionIn .procedure file name (Source.read c.world file) = .found place) :
    AnswersAlways c (Query.locateProcedure file name) (.ok (.found place)) := by
  have hscan := scan (c := c) .procedure file name
  rw [h] at hscan
  exact hscan.bind_ok (pure _)

end AnswersAlways

end AsmNavigator.Session
