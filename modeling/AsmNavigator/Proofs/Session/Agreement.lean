import AsmNavigator.Proofs.Data.OrderedMap
import AsmNavigator.Proofs.Session.Uncached

/-! # Queries on caches that agree with the world

`Caches.Agree` says that every entry of the caches is what its recomputation gives.
`Answers` says that a query gives one and the same answer on all such caches, leaves
caches of the same kind, and neither drops nor changes an entry. Both are relative to a
set `K` of paths, to which the keys of summaries and of namespace tables are confined.
`Answers` is closed under the ways in which queries are put together, so each query of
the resolver is shown to answer what its function of the context gives.
-/

namespace AsmNavigator.Session

open Config Source Workspace

namespace Caches

/-- Every entry is what its recomputation gives, under keys in `K`. -/
structure Agree (c : Context) (K : Path → Prop) (caches : Caches) : Prop where
  summaries : ∀ {p s}, caches.summaries.get? p = some s → K p ∧ s = c.summary p
  resolutions : ∀ {f e r}, caches.resolutions.get? (f, e) = some r → c.resolution f e = .ok r
  namespaces : ∀ {r t}, caches.namespaces.get? r = some t → K r ∧ c.table r = .ok t

structure Extends (before after : Caches) : Prop where
  summaries : ∀ {p s}, before.summaries.get? p = some s → after.summaries.get? p = some s
  resolutions : ∀ {k r}, before.resolutions.get? k = some r → after.resolutions.get? k = some r
  namespaces : ∀ {r t}, before.namespaces.get? r = some t → after.namespaces.get? r = some t

theorem agree_empty (c : Context) (K : Path → Prop) : Agree c K empty := by
  constructor <;> simp [empty]

theorem Extends.refl (caches : Caches) : Extends caches caches :=
  ⟨fun h => h, fun h => h, fun h => h⟩

theorem Extends.trans {a b d : Caches} (hab : Extends a b) (hbd : Extends b d) : Extends a d :=
  ⟨fun h => hbd.summaries (hab.summaries h), fun h => hbd.resolutions (hab.resolutions h),
    fun h => hbd.namespaces (hab.namespaces h)⟩

variable {c : Context} {K : Path → Prop} {caches : Caches}

theorem Agree.insertSummary (h : caches.Agree c K) {file : Path} (hk : K file) :
    let after := { caches with summaries := caches.summaries.insert file (c.summary file) }
    Agree c K after ∧ caches.Extends after := by
  refine ⟨⟨?_, h.resolutions, h.namespaces⟩, ⟨?_, fun h => h, fun h => h⟩⟩
  · intro p s hs
    simp only [OrderedMap.get?_insert] at hs
    split at hs
    · next hp =>
        subst hp
        cases hs
        exact ⟨hk, rfl⟩
    · exact h.summaries hs
  · intro p s hs
    exact OrderedMap.get?_insert_of_same (fun v hv => (h.summaries hv).2) hs

theorem Agree.insertResolution (h : caches.Agree c K) {file : Path} {expression : String}
    {resolved : Option Path} (hr : c.resolution file expression = .ok resolved) :
    let after :=
      { caches with resolutions := caches.resolutions.insert (file, expression) resolved }
    Agree c K after ∧ caches.Extends after := by
  refine ⟨⟨h.summaries, ?_, h.namespaces⟩, ⟨fun h => h, ?_, fun h => h⟩⟩
  · intro f e r hs
    simp only [OrderedMap.get?_insert] at hs
    split at hs
    · next hp =>
        cases hp
        cases hs
        exact hr
    · exact h.resolutions hs
  · intro k r hs
    refine OrderedMap.get?_insert_of_same (fun v hv => ?_) hs
    have hv' := h.resolutions hv
    rw [hr] at hv'
    cases hv'
    rfl

theorem Agree.insertNamespaces (h : caches.Agree c K) {root : Path} {table : NamespaceTable}
    (hk : K root) (ht : c.table root = .ok table) :
    let after := { caches with namespaces := caches.namespaces.insert root table }
    Agree c K after ∧ caches.Extends after := by
  refine ⟨⟨h.summaries, h.resolutions, ?_⟩, ⟨fun h => h, fun h => h, ?_⟩⟩
  · intro r t hr
    simp only [OrderedMap.get?_insert] at hr
    split at hr
    · next hp =>
        subst hp
        cases hr
        exact ⟨hk, ht⟩
    · exact h.namespaces hr
  · intro r t hr
    refine OrderedMap.get?_insert_of_same (fun v hv => ?_) hr
    have hv' := (h.namespaces hv).2
    rw [ht] at hv'
    cases hv'
    rfl

end Caches

/-! ## Running queries -/

namespace Query

variable {α β : Type} {c : Context}

theorem run_bind (x : Query α) (f : α → Query β) (s : State) :
    (x >>= f).run c s =
      match x.run c s with
      | (.ok a, s') => (f a).run c s'
      | (.error e, s') => (.error e, s') := by
  show (x >>= f) c s = _
  simp only [bind, ReaderT.bind, ExceptT.bind, ExceptT.mk, StateT.bind, ExceptT.bindCont, run]
  rcases x c s with ⟨_ | _, _⟩ <;> rfl

@[simp] theorem run_caches (s : State) : caches.run c s = (.ok s.caches, s) := rfl

@[simp] theorem run_ofExcept (outcome : Except Fault α) (s : State) :
    (ofExcept outcome).run c s = (outcome, s) := by
  cases outcome <;> rfl

end Query

/-! ## One answer on all caches that agree -/

/-- On caches that agree with the context a query gives the answer `a`, and the caches it
leaves agree too and keep every entry. -/
def Answers (c : Context) (K : Path → Prop) (q : Query α) (a : Except Fault α) : Prop :=
  ∀ s : State, s.caches.Agree c K →
    (q.run c s).1 = a ∧ (q.run c s).2.caches.Agree c K ∧
      s.caches.Extends (q.run c s).2.caches

namespace Answers

variable {α β : Type} {c : Context} {K : Path → Prop}

/-- A query that leaves the caches alone. -/
theorem of_caches_eq {q : Query α} {a : Except Fault α}
    (hanswer : ∀ s, (q.run c s).1 = a) (hcaches : ∀ s, (q.run c s).2.caches = s.caches) :
    Answers c K q a := by
  intro s hs
  refine ⟨hanswer s, ?_, ?_⟩
  · rw [hcaches s]
    exact hs
  · rw [hcaches s]
    exact .refl _

theorem pure (a : α) : Answers c K (Pure.pure a : Query α) (.ok a) :=
  of_caches_eq (fun _ => rfl) (fun _ => rfl)

theorem ofExcept (outcome : Except Fault α) : Answers c K (Query.ofExcept outcome) outcome :=
  of_caches_eq (fun _ => by simp) (fun _ => by simp)

theorem read : Answers c K (MonadReader.read : Query Context) (.ok c) :=
  of_caches_eq (fun _ => rfl) (fun _ => rfl)

theorem layout : Answers c K Query.layout (.ok c.settings.layout) :=
  of_caches_eq (fun _ => rfl) (fun _ => rfl)

theorem debug (name : String) (fields : List (String × Value)) :
    Answers c K (Query.debug name fields) (.ok ()) :=
  of_caches_eq (fun _ => rfl) (fun _ => rfl)

/-- The rest of a query may use that the first part has given its answer. -/
theorem bind {x : Query α} {f : α → Query β} {a : Except Fault α} {g : α → Except Fault β}
    (hx : Answers c K x a) (hf : ∀ v, a = .ok v → Answers c K (f v) (g v)) :
    Answers c K (x >>= f) (a >>= g) := by
  intro s hs
  obtain ⟨hanswer, hagree, hkeep⟩ := hx s hs
  rw [Query.run_bind]
  rcases hr : x.run c s with ⟨outcome, s'⟩
  rw [hr] at hanswer hagree hkeep
  simp only at hanswer hagree hkeep
  subst hanswer
  cases outcome with
  | error e => exact ⟨rfl, hagree, hkeep⟩
  | ok v =>
      obtain ⟨hanswer', hagree', hkeep'⟩ := hf v rfl s' hagree
      exact ⟨hanswer', hagree', hkeep.trans hkeep'⟩

theorem bind_ok {x : Query α} {f : α → Query β} {v : α} {b : Except Fault β}
    (hx : Answers c K x (.ok v)) (hf : Answers c K (f v) b) : Answers c K (x >>= f) b := by
  have h : Answers c K (x >>= f) (Except.ok v >>= fun _ => b) :=
    hx.bind fun w hw => by
      cases hw
      exact hf
  exact h

theorem modifyCaches {change : Caches → Caches}
    (h : ∀ caches, Caches.Agree c K caches →
      (change caches).Agree c K ∧ caches.Extends (change caches)) :
    Answers c K (Query.modifyCaches change) (.ok ()) := by
  intro s hs
  obtain ⟨hagree, hkeep⟩ := h s.caches hs
  exact ⟨rfl, hagree, hkeep⟩

/-- A query may look into the caches as long as its answer does not depend on which caches
that agree it finds. -/
theorem caches_bind {f : Caches → Query α} {a : Except Fault α}
    (h : ∀ caches, Caches.Agree c K caches → Answers c K (f caches) a) :
    Answers c K (Query.caches >>= f) a := by
  intro s hs
  have hrun : (Query.caches >>= f).run c s = (f s.caches).run c s := by
    rw [Query.run_bind, Query.run_caches]
  rw [hrun]
  exact h s.caches hs s hs

theorem map {x : Query α} {a : Except Fault α} (hx : Answers c K x a) (f : α → β) :
    Answers c K (do return f (← x)) (do return f (← a)) :=
  hx.bind fun v _ => .pure (f v)

theorem orElse {first second : Query (Option β)} {a b : Except Fault (Option β)}
    (hfirst : Answers c K first a) (hsecond : Answers c K second b) :
    Answers c K (Query.orElse first second) (Session.orElse a b) := by
  refine hfirst.bind fun v _ => ?_
  cases v with
  | none => exact hsecond
  | some b => exact .pure _

theorem firstHit {search : α → Query (Option β)} {g : α → Except Fault (Option β)}
    (h : ∀ a, Answers c K (search a) (g a)) (xs : List α) :
    Answers c K (Query.firstHit search xs) (Workspace.firstHit g xs) := by
  induction xs with
  | nil => exact .pure _
  | cons a rest ih =>
      refine (h a).bind fun v _ => ?_
      cases v with
      | none => exact ih
      | some b => exact .pure _

end Answers

end AsmNavigator.Session
