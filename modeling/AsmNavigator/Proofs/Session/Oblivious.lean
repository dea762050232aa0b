import AsmNavigator.Proofs.Session.Agreement
import AsmNavigator.Proofs.Session.Navigation

/-! # Queries do not look into the journal

Whatever the caches hold, right or wrong: what a query answers and what it leaves in the
caches depends on the caches it finds, and neither on the events that were noted before
nor on the request that is current. This is closed under the ways in which queries are
put together, so it holds of every query.
-/

namespace AsmNavigator.Session

open Config Source Workspace

/-- From equal caches, two queries give the same answer and leave equal caches. -/
def Alike (q r : Query α) : Prop :=
  ∀ (c : Context) {s t : State}, s.caches = t.caches →
    (q.run c s).1 = (r.run c t).1 ∧ (q.run c s).2.caches = (r.run c t).2.caches

theorem Alike.bind {α β : Type} {x y : Query α} {f g : α → Query β} (hxy : Alike x y)
    (hfg : ∀ a, Alike (f a) (g a)) : Alike (x >>= f) (y >>= g) := by
  intro c s t h
  obtain ⟨hanswer, hcaches⟩ := hxy c h
  rw [Query.run_bind, Query.run_bind]
  rcases hs : x.run c s with ⟨outcome, s'⟩
  rcases ht : y.run c t with ⟨outcome', t'⟩
  rw [hs, ht] at hanswer hcaches
  simp only at hanswer hcaches
  subst hanswer
  cases outcome with
  | error fault => exact ⟨rfl, hcaches⟩
  | ok a => exact hfg a c hcaches

/-- Of a session's state, a query and the caches it leaves depend on the caches alone. -/
def Oblivious (q : Query α) : Prop :=
  ∀ (c : Context) {s t : State}, s.caches = t.caches →
    (q.run c s).1 = (q.run c t).1 ∧ (q.run c s).2.caches = (q.run c t).2.caches

namespace Oblivious

variable {α β : Type}

theorem pure (a : α) : Oblivious (Pure.pure a : Query α) := fun _ _ _ h => ⟨rfl, h⟩

theorem read : Oblivious (MonadReader.read : Query Context) := fun _ _ _ h => ⟨rfl, h⟩

theorem ofExcept (outcome : Except Fault α) : Oblivious (Query.ofExcept outcome) := by
  intro c s t h
  rw [Query.run_ofExcept, Query.run_ofExcept]
  exact ⟨rfl, h⟩

theorem caches : Oblivious Query.caches := by
  intro c s t h
  exact ⟨congrArg Except.ok h, h⟩

theorem modifyCaches (change : Caches → Caches) : Oblivious (Query.modifyCaches change) := by
  intro c s t h
  exact ⟨rfl, congrArg change h⟩

theorem note (level : LogLevel) (name : Value) (fields : List (String × Value)) :
    Oblivious (Query.note level name fields) := fun _ _ _ h => ⟨rfl, h⟩

theorem debug (name : String) (fields : List (String × Value)) :
    Oblivious (Query.debug name fields) := note _ _ _

theorem alike {q : Query α} (h : Oblivious q) : Alike q q := h

theorem bind {x : Query α} {f : α → Query β} (hx : Oblivious x) (hf : ∀ a, Oblivious (f a)) :
    Oblivious (x >>= f) := hx.alike.bind fun a => (hf a).alike

theorem compositional : Compositional Oblivious := ⟨pure, read, debug, bind⟩

/-! ## Queries -/

theorem summaryOf (file : Path) : Oblivious (Query.summaryOf file) := by
  refine caches.bind fun known => ?_
  cases known.summaries.get? file with
  | some summary => exact pure _
  | none =>
      refine (compositional.readSource file).bind fun _ => ?_
      exact (modifyCaches _).bind fun _ => pure _

theorem namespaceTable (root : Path) : Oblivious (Query.namespaceTable root) := by
  refine caches.bind fun known => ?_
  cases known.namespaces.get? root with
  | some table => exact pure _
  | none =>
      refine read.bind fun context => (ofExcept _).bind fun table => ?_
      exact (modifyCaches _).bind fun _ => (debug _ _).bind fun _ => pure _

theorem ofRules : OfRules Oblivious := { compositional with ofExcept, namespaceTable }

theorem resolve (file : Path) (localName expression : String) :
    Oblivious (Query.resolve file localName expression) := by
  refine caches.bind fun known => ?_
  cases known.resolutions.get? (file, expression) with
  | some resolved => exact pure _
  | none =>
      refine (ofRules.byRule file _).bind fun _ => ?_
      exact (modifyCaches _).bind fun _ => (debug _ _).bind fun _ => pure _

theorem ofNavigation : OfNavigation Oblivious :=
  OfReexports.ofNavigation { compositional with summaryOf, resolve } caches ofExcept

theorem definitionIn (document : Document) (line column : Int) :
    Oblivious (Query.definitionIn document line column) :=
  ofNavigation.definitionIn document line column

theorem hoverIn (document : Document) (line column : Int) :
    Oblivious (Query.hoverIn document line column) :=
  ofNavigation.hoverIn document line column

/-! ## Forgetting -/

theorem fileChanged (path : Path) : Oblivious (Query.fileChanged path) := by
  refine read.bind fun _ => compositional.layout.bind fun _ => (modifyCaches _).bind fun _ => ?_
  exact debug _ _

theorem clear : Oblivious Query.clear := modifyCaches _

end Oblivious

end AsmNavigator.Session
