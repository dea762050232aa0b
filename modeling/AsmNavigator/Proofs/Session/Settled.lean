import AsmNavigator.Proofs.Session.FindSource
import AsmNavigator.Proofs.Session.Guarded

/-! # Navigation on caches that agree

Every query of a session is settled: it has one answer on all caches that agree with the
context, whatever else they hold.
-/

namespace AsmNavigator.Session

open Source Workspace

/-- A query with one answer on all caches that agree. -/
def Settled (c : Context) (K : Path → Prop) (q : Query α) : Prop := ∃ a, Answers c K q a

theorem Answers.settled {c : Context} {K : Path → Prop} {q : Query α} {a : Except Fault α}
    (h : Answers c K q a) : Settled c K q := ⟨a, h⟩

/-- A way to find a definition that finds one, or is refused, is the last that is tried. -/
theorem Answers.tryStrategies_cons {c : Context} {K : Path → Prop} {site : Site}
    {strategy : Strategy} {a : Except Fault (Option Location)}
    (ha : Answers c K (Query.byStrategy site strategy) a) (hfound : a ≠ .ok none)
    (rest : List Strategy) :
    Answers c K (Query.tryStrategies site (strategy :: rest)) a := by
  unfold Query.tryStrategies Query.firstHit
  rcases a with fault | _ | place
  · exact ha.bind_error.bind_error
  · exact absurd rfl hfound
  · refine Answers.bind_ok (v := some place) ?_ (.pure _)
    exact ha.bind_ok ((Answers.debug _ _).bind_ok (.pure _))

/-- A way to find a definition that finds none is passed over. -/
theorem Answers.tryStrategies_cons_none {c : Context} {K : Path → Prop} {site : Site}
    {strategy : Strategy} {rest : List Strategy} {a : Except Fault (Option Location)}
    (hnone : Answers c K (Query.byStrategy site strategy) (.ok none))
    (hrest : Answers c K (Query.tryStrategies site rest) a) :
    Answers c K (Query.tryStrategies site (strategy :: rest)) a := by
  unfold Query.tryStrategies Query.firstHit
  exact Answers.bind_ok (v := none) (hnone.bind_ok (.pure none)) hrest

/-- A settled query with an answer that satisfies `P`, unless it is a fault. -/
def Settles (c : Context) (K : Path → Prop) (q : Query α) (P : α → Prop) : Prop :=
  ∃ a, Answers c K q a ∧ ∀ v, a = .ok v → P v

namespace Settles

variable {α β : Type} {c : Context} {K : Path → Prop} {E : String → Prop} {P : α → Prop}

theorem settled {q : Query α} (h : Settles c K q P) : Settled c K q := by
  obtain ⟨a, ha, -⟩ := h
  exact ha.settled

theorem of_ok {q : Query α} {v : α} (h : Answers c K q (.ok v)) (hv : P v) : Settles c K q P := by
  refine ⟨_, h, ?_⟩
  rintro w hw
  cases hw
  exact hv

theorem bind {Q : β → Prop} {x : Query α} {f : α → Query β} (hx : Settles c K x P)
    (hf : ∀ v, P v → Settles c K (f v) Q) : Settles c K (x >>= f) Q := by
  obtain ⟨a, ha, hanswer⟩ := hx
  cases a with
  | error fault => exact ⟨_, ha.bind_error, fun v hv => by cases hv⟩
  | ok v =>
      obtain ⟨b, hb, hresult⟩ := hf v (hanswer v rfl)
      exact ⟨b, ha.bind_ok hb, hresult⟩

theorem guarded (h : Confines c K E) : Guarded c K (Settles c K) where
  pure hp := of_ok (.pure _) hp
  bind := bind
  read := of_ok .read rfl
  ofExcept outcome := ⟨_, .ofExcept outcome, fun _ _ => trivial⟩
  debug name fields := of_ok (.debug name fields) trivial
  summaryOf hk := of_ok (.summaryOf hk) rfl
  resolve hk localName expression :=
    ⟨_, .resolve h.parent hk localName expression, fun _ hv => hv⟩
  findSource {file} hk name :=
    ⟨_, .findSource h.parent h.next (s := (file, name)) hk, fun _ _ => trivial⟩

end Settles

end AsmNavigator.Session
