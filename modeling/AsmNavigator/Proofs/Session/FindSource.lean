import AsmNavigator.Proofs.Session.ReexportWalk

/-! # What following re-exports finds

The search for a definition goes to the end of the longest walk along re-exports and
looks on the way back. `follow` is the search without caches; its depth does not matter
once it is as large as a walk can be long. `findSource?_eq` says what the session's
search answers: the first definition on the way back, or the fault with which the
resolution at the end of the walk is refused.
-/

namespace AsmNavigator.Session

open Source Workspace

/-- The search along re-exports, on the files as they are on disk. -/
def Context.follow (c : Context) : Nat → List Symbol → Symbol → Except Fault (Option Location)
  | 0, _, _ => .ok none
  | fuel + 1, visited, s =>
      if visited.contains s then .ok none
      else do
        match ← c.next s with
        | none => return c.direct s
        | some t =>
            return ((← c.follow fuel (s :: visited) t).or (c.direct t)).or (c.direct s)

/-- What is found on the way back from the end of a walk, where `next?` is the pair to
which its last pair leads. -/
def Context.onTheWayBack (c : Context) (walk : List Symbol) (next? : Option Symbol) :
    Option Location :=
  (next?.toList ++ walk.reverse).findSome? c.direct

variable {c : Context}

/-! ## The search and the longest walk -/

theorem follow_of_mem {fuel : Nat} {visited : List Symbol} {s : Symbol} (h : s ∈ visited) :
    c.follow fuel visited s = .ok none := by
  cases fuel with
  | zero => rfl
  | succ fuel => simp [Context.follow, h]

theorem follow_succ {fuel : Nat} {visited : List Symbol} {s : Symbol} (h : s ∉ visited) :
    c.follow (fuel + 1) visited s =
      match c.next s with
      | .error fault => .error fault
      | .ok none => .ok (c.direct s)
      | .ok (some t) =>
          ((c.follow fuel (s :: visited) t).map (·.or (c.direct t))).map (·.or (c.direct s)) := by
  simp only [Context.follow, List.contains_eq_mem, h, decide_false, Bool.false_eq_true, if_false]
  rcases c.next s with fault | _ | t
  · rfl
  · rfl
  · simp only [bind, Except.bind, pure, Except.pure]
    cases c.follow fuel (s :: visited) t <;> rfl

theorem onTheWayBack_single (s : Symbol) (next? : Option Symbol) :
    c.onTheWayBack [s] next? = (next?.bind c.direct).or (c.direct s) := by
  cases next? with
  | none => cases h : c.direct s <;> simp [Context.onTheWayBack, h]
  | some t =>
      cases ht : c.direct t <;> cases h : c.direct s <;>
        simp [Context.onTheWayBack, ht, h]

/-- Looking at `t` once more, after the way back has passed it, finds nothing new. -/
theorem onTheWayBack_cons (s t : Symbol) (rest : List Symbol) (next? : Option Symbol) :
    c.onTheWayBack (s :: t :: rest) next? =
      ((c.onTheWayBack (t :: rest) next?).or (c.direct t)).or (c.direct s) := by
  unfold Context.onTheWayBack
  simp only [List.reverse_cons, ← List.append_assoc, List.findSome?_append]
  cases (next?.toList ++ rest.reverse).findSome? c.direct <;> cases ht : c.direct t <;>
    cases hs : c.direct s <;> simp [ht, hs]

theorem Context.IsWalk.snoc {start s t : Symbol} {walk : List Symbol}
    (h : c.IsWalk start (walk ++ [s])) (ht : c.next s = .ok (some t)) :
    c.IsWalk start (walk ++ [s] ++ [t]) := by
  obtain ⟨hhead, hchain⟩ := h
  refine ⟨?_, ?_⟩
  · rw [List.head?_append, hhead]
    rfl
  · rw [List.isChain_append]
    refine ⟨hchain, .singleton t, ?_⟩
    intro x hx y hy
    rw [List.getLast?_concat] at hx
    cases hx
    cases hy
    exact ht

/-- A walk ends where what its last pair leads to, if anything, was met before. -/
theorem Context.IsWalk.isLongestWalk {start s : Symbol} {walk : List Symbol}
    (h : c.IsWalk start (walk ++ [s])) (hnodup : (walk ++ [s]).Nodup)
    (hstops : ∀ t, c.next s = .ok (some t) → t ∈ walk ++ [s]) :
    c.IsLongestWalk start (walk ++ [s]) := by
  refine ⟨h, hnodup, ?_⟩
  intro last t hlast ht
  rw [List.getLast?_concat] at hlast
  cases hlast
  exact hstops t ht

/-- The search from a pair that a walk has reached, carried to the end of the longest walk. -/
theorem follow_eq_onTheWayBack {start s : Symbol} {fuel : Nat} {visited : List Symbol}
    (hwalk : c.IsWalk start (visited.reverse ++ [s])) (hnodup : (visited.reverse ++ [s]).Nodup)
    (hfuel : c.walkLimit ≤ fuel + visited.length) :
    ∃ rest last, c.IsLongestWalk start (visited.reverse ++ s :: rest) ∧
      (s :: rest).getLast? = some last ∧
      c.follow fuel visited s = (c.next last).map (c.onTheWayBack (s :: rest)) := by
  induction fuel generalizing visited s with
  | zero =>
      have hlength := length_le_walkLimit hwalk hnodup
      simp only [List.length_append, List.length_reverse, List.length_singleton] at hlength
      omega
  | succ fuel ih =>
      have hfresh : s ∉ visited := by
        intro hmem
        exact (List.nodup_append.mp hnodup).2.2 s (by simpa using hmem) s (by simp) rfl
      rw [follow_succ hfresh]
      cases hnext : c.next s with
      | error fault =>
          refine ⟨[], s, hwalk.isLongestWalk hnodup (by simp [hnext]), rfl, ?_⟩
          rw [hnext]
          rfl
      | ok next? =>
          cases next? with
          | none =>
              refine ⟨[], s, hwalk.isLongestWalk hnodup (by simp [hnext]), rfl, ?_⟩
              rw [hnext]
              simp [Except.map, onTheWayBack_single]
          | some t =>
              simp only
              by_cases hmet : t ∈ s :: visited
              · refine ⟨[], s, hwalk.isLongestWalk hnodup ?_, rfl, ?_⟩
                · intro u hu
                  rw [hnext] at hu
                  cases hu
                  simpa [or_comm] using hmet
                · rw [hnext, follow_of_mem hmet]
                  simp [Except.map, onTheWayBack_single]
              · have hwalk' := hwalk.snoc hnext
                have hnodup' : (visited.reverse ++ [s] ++ [t]).Nodup := by
                  refine List.nodup_append.mpr ⟨hnodup, by simp, ?_⟩
                  intro x hx y hy hxy
                  rw [List.mem_singleton.mp hy] at hxy
                  subst hxy
                  exact hmet (by simpa [or_comm] using hx)
                rw [← List.reverse_cons] at hwalk' hnodup'
                obtain ⟨rest, last, hlongest, hlast, hfollow⟩ :=
                  ih hwalk' hnodup' (by simp only [List.length_cons]; omega)
                refine ⟨t :: rest, last, by simpa using hlongest, by simpa using hlast, ?_⟩
                rw [hfollow]
                cases c.next last with
                | error fault => rfl
                | ok next? => simp only [Except.map, onTheWayBack_cons]

theorem exists_longestWalk_follow (start : Symbol) {fuel : Nat} (hfuel : c.walkLimit ≤ fuel) :
    ∃ walk last, c.IsLongestWalk start walk ∧ walk.getLast? = some last ∧
      c.follow fuel [] start = (c.next last).map (c.onTheWayBack walk) := by
  have hwalk : c.IsWalk start (([] : List Symbol).reverse ++ [start]) := ⟨rfl, .singleton start⟩
  obtain ⟨rest, last, hlongest, hlast, hfollow⟩ := follow_eq_onTheWayBack hwalk (by simp) hfuel
  exact ⟨start :: rest, last, hlongest, hlast, hfollow⟩

/-- A search that may go as far as a walk can be long goes no farther with more depth. -/
theorem follow_eq_of_le (start : Symbol) {fuel : Nat} (hfuel : c.walkLimit ≤ fuel) :
    c.follow fuel [] start = c.follow c.walkLimit [] start := by
  obtain ⟨walk, last, hwalk, hlast, hfollow⟩ := exists_longestWalk_follow start hfuel
  obtain ⟨walk', last', hwalk', hlast', hfollow'⟩ :=
    exists_longestWalk_follow start (Nat.le_refl c.walkLimit)
  cases hwalk.eq hwalk'
  rw [hlast] at hlast'
  cases hlast'
  rw [hfollow, hfollow']

/-! ## The search of a session -/

namespace Answers

variable {K : Path → Prop}

theorem scan (kind : SymbolKind) (file : Path) (name : String) :
    Answers c K (Query.scan kind file name)
      (.ok (definitionIn kind file name (Source.read c.world file))) :=
  (readSource file).bind_ok (.pure _)

theorem scanProcedure (s : Symbol) :
    Answers c K (do return (← Query.scan .procedure s.1 s.2).location?) (.ok (c.direct s)) :=
  (scan .procedure s.1 s.2).bind_ok (.pure _)

theorem bind_error {x : Query α} {f : α → Query β} {fault : Fault}
    (hx : Answers c K x (.error fault)) : Answers c K (x >>= f) (.error fault) := by
  have h : Answers c K (x >>= f) (Except.error fault >>= fun _ => .error fault) :=
    hx.bind fun _ hv => nomatch hv
  exact h

/-- One search, and another one if it finds nothing. -/
theorem or_found {first : Query (Option α)} {rest : Option α → Query (Option α)}
    {a : Except Fault (Option α)} {b : Option α} (hfirst : Answers c K first a)
    (hsome : ∀ v, Answers c K (rest (some v)) (.ok (some v)))
    (hnone : Answers c K (rest none) (.ok b)) :
    Answers c K (first >>= rest) (a.map (·.or b)) := by
  rcases a with fault | _ | v
  · exact hfirst.bind_error
  · exact hfirst.bind_ok hnone
  · exact hfirst.bind_ok (hsome v)

/-- The session's search is the one on the files as they are on disk. -/
theorem followFrom (hup : ∀ p, K p → K p.parent)
    (hnext : ∀ {s t : Symbol}, K s.1 → c.next s = .ok (some t) → K t.1)
    (fuel : Nat) (visited : List Symbol) {s : Symbol} (hk : K s.1) :
    Answers c K (Query.followFrom fuel visited s.1 s.2) (c.follow fuel visited s) := by
  induction fuel generalizing visited s with
  | zero => exact .pure _
  | succ fuel ih =>
      obtain ⟨file, name⟩ := s
      unfold Query.followFrom
      by_cases hmet : (file, name) ∈ visited
      · rw [follow_of_mem hmet]
        simp only [List.contains_eq_mem, hmet, decide_true, if_true]
        exact (debug _ _).bind_ok (.pure _)
      rw [follow_succ hmet]
      simp only [List.contains_eq_mem, hmet, decide_false, Bool.false_eq_true, if_false]
      refine (summaryOf hk).bind_ok ?_
      have hhere := scanProcedure (K := K) (c := c) (file, name)
      cases hget : (c.summary file).reexports.get? name with
      | none =>
          rw [next_of_no_reexport (s := (file, name)) hget]
          exact (Answers.pure none).bind_ok hhere
      | some reexport =>
          have hresolve := resolve (c := c) hup hk reexport.moduleName
            (c.expressionFor file reexport.moduleName)
          have hstep := next_of_reexport (s := (file, name)) hget
          rcases hresolved : c.resolution file (c.expressionFor file reexport.moduleName) with
            fault | _ | target
          · rw [hresolved] at hresolve hstep
            rw [show c.next (file, name) = .error fault from hstep]
            exact hresolve.bind_error
          · rw [hresolved] at hresolve hstep
            rw [show c.next (file, name) = .ok none from hstep]
            exact hresolve.bind_ok ((Answers.pure none).bind_ok hhere)
          · rw [hresolved] at hresolve hstep
            have hmove : c.next (file, name) = .ok (some (target, reexport.declared)) := hstep
            have hthere := ih ((file, name) :: visited) (hnext hk hmove)
            rw [hmove]
            refine hresolve.bind_ok ?_
            refine or_found (or_found hthere ?_ ?_) ?_ ?_
            · exact fun v => .pure (some v)
            · exact scanProcedure (target, reexport.declared)
            · exact fun v => .pure (some v)
            · exact hhere

/-- The depth that a session allows is enough, whatever its caches hold. -/
theorem run_walkBound (state : State) :
    ∃ depth, c.walkLimit ≤ depth ∧ Query.walkBound.run c state = (.ok depth, state) := by
  refine ⟨_, ?_, rfl⟩
  unfold Context.walkLimit
  omega

end Answers

/-- Where a procedure is defined, re-exports followed, on the files as they are on disk. -/
def Context.source (c : Context) (s : Symbol) : Except Fault (Option Location) :=
  c.follow c.walkLimit [] s

theorem Answers.findSource {K : Path → Prop} (hup : ∀ p, K p → K p.parent)
    (hnext : ∀ {s t : Symbol}, K s.1 → c.next s = .ok (some t) → K t.1) {s : Symbol}
    (hk : K s.1) : Answers c K (Query.findSource? s.1 s.2) (c.source s) := by
  intro state hstate
  obtain ⟨depth, hdepth, hrun⟩ := run_walkBound (c := c) state
  unfold Query.findSource? Context.source
  rw [Query.run_bind, hrun, ← follow_eq_of_le s hdepth]
  exact followFrom hup hnext depth [] hk state hstate

/-- The search has an answer on all caches that agree: with the longest walk from the name,
which is unique, it is the first definition on the way back, unless the resolution at the
end of the walk is refused. -/
theorem findSource?_eq_onTheWayBack (c : Context) (file : Path) (name : String) :
    ∃ walk last, c.IsLongestWalk (file, name) walk ∧
      (∀ other, c.IsLongestWalk (file, name) other → other = walk) ∧
      walk.getLast? = some last ∧
      ∀ state : State, state.caches.Agree c (fun _ => True) →
        ((Query.findSource? file name).run c state).1 =
          match c.next last with
          | .error fault => .error fault
          | .ok next? => .ok (c.onTheWayBack walk next?) := by
  obtain ⟨walk, last, hwalk, hlast, hfollow⟩ :=
    exists_longestWalk_follow (file, name) (Nat.le_refl c.walkLimit)
  refine ⟨walk, last, hwalk, fun other hother => hother.eq hwalk, hlast, ?_⟩
  intro state hstate
  have hsource := Answers.findSource (K := fun _ => True) (fun _ _ => trivial)
    (fun _ _ => trivial) (s := (file, name)) trivial state hstate
  rw [hsource.1, Context.source, hfollow]
  cases c.next last <;> rfl

def cyclicReexports : Context where
  world :=
    { tree := ⟨⟨[(["a.masm"], .file "pub use b::q->p\n".toUTF8),
        (["b.masm"], .file "pub use a::p->q\nproc q\nend\n".toUTF8)]⟩⟩
      env := ⟨.empty, ⟨.slash, []⟩, [], 0⟩ }
  settings := {}
  registryRoot? := none

theorem findSource?_cyclicReexports :
    State.start.caches.Agree cyclicReexports (fun _ => True) ∧
      ((Query.findSource? ⟨.slash, ["a.masm"]⟩ "p").run cyclicReexports .start).1 =
        .ok (some ⟨⟨.slash, ["b.masm"]⟩, 1, 5⟩) := by
  have hagree : State.start.caches.Agree cyclicReexports (fun _ => True) := Caches.agree_empty _ _
  refine ⟨hagree, ?_⟩
  have hfirst : cyclicReexports.next (⟨.slash, ["a.masm"]⟩, "p") =
      .ok (some (⟨.slash, ["b.masm"]⟩, "q")) := by
    decide +kernel
  have hsecond : cyclicReexports.next (⟨.slash, ["b.masm"]⟩, "q") =
      .ok (some (⟨.slash, ["a.masm"]⟩, "p")) := by
    decide +kernel
  have hcycle : cyclicReexports.IsLongestWalk (⟨.slash, ["a.masm"]⟩, "p")
      [(⟨.slash, ["a.masm"]⟩, "p"), (⟨.slash, ["b.masm"]⟩, "q")] := by
    refine ⟨⟨rfl, .cons_cons hfirst (.singleton _)⟩, by decide, ?_⟩
    intro last t hlast ht
    simp only [List.getLast?_cons_cons, List.getLast?_singleton, Option.some.injEq] at hlast
    rw [← hlast, hsecond] at ht
    cases ht
    simp
  obtain ⟨walk, last, -, hunique, hlast, hanswer⟩ :=
    findSource?_eq_onTheWayBack cyclicReexports ⟨.slash, ["a.masm"]⟩ "p"
  cases hunique _ hcycle
  simp only [List.getLast?_cons_cons, List.getLast?_singleton, Option.some.injEq] at hlast
  rw [hanswer .start hagree, ← hlast, hsecond]
  decide +kernel

end AsmNavigator.Session
