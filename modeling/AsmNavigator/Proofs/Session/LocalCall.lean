import AsmNavigator.Proofs.Session.Oblivious
import AsmNavigator.Proofs.Session.Retention
import AsmNavigator.Proofs.Source.Words

/-! # The strategy for local calls

A local call is looked up in the file and in the modules that it imports. The two
strategies after it look up the word at the cursor in the same places, and the name that a
call ends in is that word. So the strategies after it find what it finds, and when it finds
nothing they look in vain once more, into entries that the caches now hold.
-/

namespace AsmNavigator.Session

open Source

/-! ## Searches that are repeated -/

/-- Once a query has answered, it answers the same, and changes nothing, on all caches that
still hold what it has left behind. -/
structure Replays (q : Query α) : Prop where
  again : ∀ {c : Context} {s t : State} {a : α}, (q.run c s).1 = .ok a →
    (q.run c s).2.caches.Extends t.caches →
    (q.run c t).1 = .ok a ∧ (q.run c t).2.caches = t.caches
  maintains : ∀ before : Caches, Maintains before.Extends q

namespace Replays

variable {α β : Type}

theorem of_caches_eq {q : Query α} (hanswer : ∀ c s t, (q.run c s).1 = (q.run c t).1)
    (hcaches : ∀ c s, (q.run c s).2.caches = s.caches) : Replays q where
  again {c s t _} h _ := ⟨(hanswer c t s).trans h, hcaches c t⟩
  maintains _ := Ensures.of_caches_eq hcaches

theorem bind {x : Query α} {f : α → Query β} (hx : Replays x) (hf : ∀ a, Replays (f a)) :
    Replays (x >>= f) where
  again {c s t b} h hkept := by
    rw [Query.run_bind] at h hkept ⊢
    rcases hs : x.run c s with ⟨fault | a, s'⟩
    · rw [hs] at h
      cases h
    · rw [hs] at h hkept
      have hleft : s'.caches.Extends t.caches :=
        ((hf a).maintains s'.caches c s' (.refl _)).trans hkept
      rcases ht : x.run c t with ⟨outcome, t'⟩
      obtain ⟨hanswer, hcaches⟩ : outcome = .ok a ∧ t'.caches = t.caches := by
        have hagain := hx.again (c := c) (s := s) (t := t) (a := a)
        rw [hs, ht] at hagain
        exact hagain rfl hleft
      subst hanswer
      rw [← hcaches] at hkept ⊢
      exact (hf a).again h hkept
  maintains before := (hx.maintains before).bind (fun _ h => h) fun a => (hf a).maintains before

theorem compositional : Compositional Replays where
  pure _ := of_caches_eq (fun _ _ _ => rfl) fun _ _ => rfl
  read := of_caches_eq (fun _ _ _ => rfl) fun _ _ => rfl
  debug _ _ := of_caches_eq (fun _ _ _ => rfl) fun _ _ => rfl
  bind := bind

theorem summaryOf (file : Path) : Replays (Query.summaryOf file) where
  again {c s t summary} h hkept := by
    have hget := hkept.summaries (leaves_summaryOf file c s summary trivial h)
    rw [run_summaryOf_of_get? hget c]
    exact ⟨rfl, rfl⟩
  maintains before := (fillable_extends before).summaryOf file

theorem resolve (file : Path) (localName expression : String) :
    Replays (Query.resolve file localName expression) where
  again {c s t resolved} h hkept := by
    have hget := hkept.resolutions (leaves_resolve file localName expression c s _ trivial h)
    rw [run_resolve_of_get? hget c]
    exact ⟨rfl, rfl⟩
  maintains before := maintains_resolve before file localName expression

theorem ofReexports : OfReexports Replays := { compositional with summaryOf, resolve }

end Replays

/-- A search is redundant before another one that looks in the same places. -/
theorem Alike.orElse_redundant {q r : Query (Option α)} (h : Alike q r) (hr : Replays r) :
    Alike (Query.orElse q r) r := by
  intro c s t hcaches
  obtain ⟨hanswer, hleft⟩ := h c hcaches
  unfold Query.orElse
  rw [Query.run_bind]
  rcases hq : q.run c s with ⟨outcome, s'⟩
  rw [hq] at hanswer hleft
  cases outcome with
  | error fault => exact ⟨hanswer, hleft⟩
  | ok found? =>
      cases found? with
      | some a => exact ⟨hanswer, hleft⟩
      | none =>
          have hkept : (r.run c t).2.caches.Extends s'.caches := hleft ▸ .refl _
          obtain ⟨hagain, hsame⟩ := hr.again hanswer.symm hkept
          exact ⟨hagain.trans hanswer, hsame.trans hleft⟩

/-! ## The strategies -/

def noted (site : Site) (strategy : Strategy) : Option Location → Query (Option Location)
  | none => return none
  | some location => do
      Query.debug "definition_found"
        [("word", .text site.word.text), ("strategy", .text strategy.label),
          ("file", Query.pathFact location.file), ("line", .int location.line)]
      return some location

theorem Compositional.noted {J : ∀ {α : Type}, Query α → Prop} (h : Compositional J)
    (site : Site) (strategy : Strategy) (found? : Option Location) :
    J (noted site strategy found?) := by
  cases found? with
  | none => exact h.pure none
  | some location => exact h.bind (h.debug _ _) fun _ => h.pure _

section

variable {site : Site}

theorem tryStrategies_cons (strategy : Strategy) (rest : List Strategy) :
    Query.tryStrategies site (strategy :: rest) =
      Query.orElse (Query.byStrategy site strategy >>= noted site strategy)
        (Query.tryStrategies site rest) := rfl

theorem alike_tryStrategies_cons (strategy : Strategy) {strategies others : List Strategy}
    (h : Alike (Query.tryStrategies site strategies) (Query.tryStrategies site others)) :
    Alike (Query.tryStrategies site (strategy :: strategies))
      (Query.tryStrategies site (strategy :: others)) := by
  have hhead : Oblivious (Query.byStrategy site strategy >>= noted site strategy) :=
    (Oblivious.ofNavigation.byStrategy site strategy).bind (Oblivious.compositional.noted site _)
  rw [tryStrategies_cons, tryStrategies_cons]
  refine hhead.alike.bind fun found? => ?_
  cases found? with
  | none => exact h
  | some location => exact (Oblivious.pure _).alike

theorem replays_localSearch :
    Replays (Query.tryStrategies site [.fromLocalDefinition, .fromImportedModules]) := by
  have hsteps := Replays.compositional
  have hfile := Replays.ofReexports.findProcedure site.file site.word.text
  have himported := Replays.ofReexports.inImportedModules site site.word.text
  rw [tryStrategies_cons, tryStrategies_cons]
  refine hsteps.orElse (hfile.bind (hsteps.noted site _)) ?_
  exact hsteps.orElse (himported.bind (hsteps.noted site _)) (hsteps.pure none)

/-- A call that ends in the word at the cursor: of a local call and of that word there are the
same two searches, one in the file and one in the imported modules. -/
theorem alike_fromLocalCall (hword : IsToken site.line.toList site.word) {procedure : String}
    (hcall : localCall? site.line site.word = some procedure) :
    Alike (Query.byStrategy site .fromLocalCall >>= noted site .fromLocalCall)
      (Query.tryStrategies site [.fromLocalDefinition, .fromImportedModules]) := by
  obtain rfl : procedure = site.word.text := eq_of_localCall? hword hcall
  have hfile := Oblivious.ofNavigation.findProcedure site.file site.word.text
  have himported := Oblivious.ofNavigation.inImportedModules site site.word.text
  rw [tryStrategies_cons, tryStrategies_cons]
  simp only [Query.byStrategy, Query.fromLocalCall, hcall, Query.orElse, bind_assoc]
  refine hfile.alike.bind fun found? => ?_
  cases found? with
  | some location => exact fun _ _ _ h => ⟨rfl, h⟩
  | none =>
      refine himported.alike.bind fun found? => ?_
      cases found? with
      | some location => exact fun _ _ _ h => ⟨rfl, h⟩
      | none => exact fun _ _ _ h => ⟨rfl, h⟩

theorem alike_without_fromLocalCall (hword : IsToken site.line.toList site.word) :
    Alike
      (Query.tryStrategies site [.fromLocalCall, .fromLocalDefinition, .fromImportedModules])
      (Query.tryStrategies site [.fromLocalDefinition, .fromImportedModules]) := by
  rw [tryStrategies_cons .fromLocalCall]
  cases hcall : localCall? site.line site.word with
  | some procedure => exact (alike_fromLocalCall hword hcall).orElse_redundant replays_localSearch
  | none =>
      simp only [Query.byStrategy, Query.fromLocalCall, hcall, pure_bind, noted, Query.orElse]
      exact (Oblivious.ofNavigation.tryStrategies site _).alike

end

/-- Without the strategy for local calls every definition is answered in the same way, and
the caches are the same afterwards. -/
theorem definition_without_fromLocalCall (c : Context) (s : State) (path : Path) (line : String)
    (column : Int) :
    let found := (Query.definition path line column).run c s
    let others := Strategy.all.erase .fromLocalCall
    let foundByOthers := (Query.definitionBy others path line column).run c s
    found.1 = foundByOthers.1 ∧ found.2.caches = foundByOthers.2.caches := by
  have hothers : Strategy.all.erase .fromLocalCall =
      [.fromImport, .fromQualifiedCall, .fromLocalDefinition, .fromImportedModules] := rfl
  have halike : Alike (Query.definition path line column)
      (Query.definitionBy (Strategy.all.erase .fromLocalCall) path line column) := by
    refine Oblivious.read.alike.bind fun context => ?_
    simp only
    cases hword : navigableWord? line column with
    | none => exact (Oblivious.pure none).alike
    | some w =>
        have hat : wordAt line column = some w := (Option.filter_eq_some_iff.mp hword).1
        refine (Oblivious.summaryOf _).alike.bind fun summary => ?_
        rw [hothers]
        refine alike_tryStrategies_cons _ (alike_tryStrategies_cons _ ?_)
        exact alike_without_fromLocalCall (isToken_of_wordAt hat)
  exact halike c rfl

end AsmNavigator.Session
