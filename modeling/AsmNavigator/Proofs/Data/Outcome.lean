import Mathlib.Control.Basic

/-! # Computations that may be refused

What the parts of a computation have given, if the whole is answered or refused. A traversal
of a list is refused because one of its items is.
-/

namespace AsmNavigator

variable {ε α β : Type}

theorem bind_eq_ok {x : Except ε α} {f : α → Except ε β} {b : β} :
    (x >>= f) = .ok b ↔ ∃ a, x = .ok a ∧ f a = .ok b := by
  constructor
  · intro h
    cases x with
    | error fault => cases h
    | ok a => exact ⟨a, rfl, h⟩
  · rintro ⟨a, rfl, h⟩
    exact h

theorem bind_eq_error {x : Except ε α} {f : α → Except ε β} {fault : ε} :
    (x >>= f) = .error fault ↔ x = .error fault ∨ ∃ a, x = .ok a ∧ f a = .error fault := by
  constructor
  · intro h
    cases x with
    | error refusal =>
        cases h
        exact .inl rfl
    | ok a => exact .inr ⟨a, rfl, h⟩
  · rintro (rfl | ⟨a, rfl, h⟩)
    · rfl
    · exact h

theorem bind_congr_of_ok {x : Except ε α} {f g : α → Except ε β}
    (h : ∀ a, x = .ok a → f a = g a) : x >>= f = x >>= g := by
  cases x with
  | error fault => rfl
  | ok a => exact h a rfl

theorem eq_ok_of_toOption {x : Except ε α} {a : α} (h : x.toOption = some a) : x = .ok a := by
  cases x with
  | error fault => cases h
  | ok b =>
      cases h
      rfl

/-! ## Traversals -/

theorem exists_of_mapM_error {f : α → Except ε β} {xs : List α} {fault : ε}
    (h : xs.mapM f = .error fault) : ∃ x ∈ xs, f x = .error fault := by
  induction xs with
  | nil => cases h
  | cons head rest ih =>
      rw [List.mapM_cons] at h
      rcases bind_eq_error.mp h with hhead | ⟨b, -, h⟩
      · exact ⟨head, by simp, hhead⟩
      · rcases bind_eq_error.mp h with hrest | ⟨bs, -, h⟩
        · obtain ⟨x, hx, hfault⟩ := ih hrest
          exact ⟨x, List.mem_cons_of_mem _ hx, hfault⟩
        · cases h

theorem map_eq_of_mapM {f : α → Except ε β} {g : β → α} {xs : List α} {ys : List β}
    (hf : ∀ x y, f x = .ok y → g y = x) (h : xs.mapM f = .ok ys) : ys.map g = xs := by
  induction xs generalizing ys with
  | nil =>
      cases h
      rfl
  | cons head rest ih =>
      rw [List.mapM_cons] at h
      obtain ⟨y, hhead, h⟩ := bind_eq_ok.mp h
      obtain ⟨more, hrest, h⟩ := bind_eq_ok.mp h
      cases h
      rw [List.map_cons, hf head y hhead, ih hrest]

theorem exists_of_mem_mapM {f : α → Except ε β} {xs : List α} {ys : List β}
    (h : xs.mapM f = .ok ys) {y : β} (hy : y ∈ ys) : ∃ x ∈ xs, f x = .ok y := by
  induction xs generalizing ys with
  | nil =>
      cases h
      cases hy
  | cons head rest ih =>
      rw [List.mapM_cons] at h
      obtain ⟨first, hhead, h⟩ := bind_eq_ok.mp h
      obtain ⟨more, hrest, h⟩ := bind_eq_ok.mp h
      cases h
      rcases List.mem_cons.mp hy with rfl | hy
      · exact ⟨head, by simp, hhead⟩
      · obtain ⟨x, hx, hfx⟩ := ih hrest hy
        exact ⟨x, List.mem_cons_of_mem _ hx, hfx⟩

theorem mapM_append_eq_ok {f : α → Except ε β} {xs ys : List α} {zs : List β}
    (h : (xs ++ ys).mapM f = .ok zs) :
    ∃ front back, xs.mapM f = .ok front ∧ ys.mapM f = .ok back ∧ zs = front ++ back := by
  rw [List.mapM_append] at h
  obtain ⟨front, hfront, h⟩ := bind_eq_ok.mp h
  obtain ⟨back, hback, h⟩ := bind_eq_ok.mp h
  cases h
  exact ⟨front, back, hfront, hback, rfl⟩

theorem mapM_cons_eq_ok {f : α → Except ε β} {x : α} {xs : List α} {zs : List β}
    (h : (x :: xs).mapM f = .ok zs) :
    ∃ first rest, f x = .ok first ∧ xs.mapM f = .ok rest ∧ zs = first :: rest := by
  rw [List.mapM_cons] at h
  obtain ⟨first, hfirst, h⟩ := bind_eq_ok.mp h
  obtain ⟨rest, hrest, h⟩ := bind_eq_ok.mp h
  cases h
  exact ⟨first, rest, hfirst, hrest, rfl⟩

/-- What every step keeps holds in the end. -/
theorem foldlM_keeps {f : β → α → Except ε β} {P : β → Prop} {xs : List α}
    (hstep : ∀ x ∈ xs, ∀ acc next, P acc → f acc x = .ok next → P next) {init result : β}
    (hinit : P init) (h : xs.foldlM f init = .ok result) : P result := by
  induction xs generalizing init with
  | nil =>
      cases h
      exact hinit
  | cons x rest ih =>
      rw [List.foldlM_cons] at h
      obtain ⟨next, hnext, h⟩ := bind_eq_ok.mp h
      exact ih (fun y hy => hstep y (List.mem_cons_of_mem _ hy))
        (hstep x (by simp) init next hinit hnext) h

theorem exists_foldlM {f : β → α → Except ε β} {xs : List α}
    (h : ∀ x ∈ xs, ∀ acc, ∃ next, f acc x = .ok next) (init : β) :
    ∃ result, xs.foldlM f init = .ok result := by
  induction xs generalizing init with
  | nil => exact ⟨init, rfl⟩
  | cons x rest ih =>
      obtain ⟨next, hnext⟩ := h x (by simp) init
      obtain ⟨result, hresult⟩ := ih (fun y hy => h y (List.mem_cons_of_mem _ hy)) next
      exact ⟨result, by rw [List.foldlM_cons, hnext]; exact hresult⟩

theorem foldlM_congr {f g : β → α → Except ε β} {xs : List α}
    (h : ∀ x ∈ xs, ∀ acc, f acc x = g acc x) (init : β) : xs.foldlM f init = xs.foldlM g init := by
  induction xs generalizing init with
  | nil => rfl
  | cons x rest ih =>
      rw [List.foldlM_cons, List.foldlM_cons, h x (by simp)]
      exact bind_congr_of_ok fun acc _ => ih (fun y hy => h y (List.mem_cons_of_mem _ hy)) acc

/-- Items that change nothing may be left out. -/
theorem foldlM_filter {f : β → α → Except ε β} {keep : α → Bool} {xs : List α}
    (h : ∀ x ∈ xs, keep x = false → ∀ acc, f acc x = .ok acc) (init : β) :
    xs.foldlM f init = (xs.filter keep).foldlM f init := by
  rw [List.foldlM_filter]
  refine foldlM_congr (fun x hx acc => ?_) init
  cases hkeep : keep x with
  | true => rfl
  | false => exact h x hx hkeep acc

/-! ## Filters -/

variable {f g : α → Except ε Bool} {xs kept : List α} {fault : ε}

theorem filterAuxM_eq (f : α → Except ε Bool) (xs acc : List α) :
    xs.filterAuxM f acc = (do return (← xs.filterM f).reverse ++ acc) := by
  have hacc : ∀ acc, xs.filterAuxM f acc = (do return (← xs.filterAuxM f []) ++ acc) := by
    induction xs with
    | nil => exact fun acc => rfl
    | cons x rest ih =>
        intro acc
        unfold List.filterAuxM
        cases f x with
        | error fault => rfl
        | ok keep =>
            cases keep with
            | false => exact ih acc
            | true =>
                simp only [bind, Except.bind, cond]
                rw [ih (x :: acc), ih [x]]
                cases rest.filterAuxM f [] <;> simp [bind, Except.bind, pure, Except.pure]
  rw [hacc]
  unfold List.filterM
  cases xs.filterAuxM f [] <;> simp [bind, Except.bind, pure, Except.pure]

theorem filterM_cons (f : α → Except ε Bool) (x : α) (rest : List α) :
    (x :: rest).filterM f = (do
      let keep ← f x
      let kept ← rest.filterM f
      return if keep then x :: kept else kept) := by
  have hsteps : (x :: rest).filterM f = (do
      let keep ← f x
      return (← rest.filterAuxM f (cond keep [x] [])).reverse) := by
    unfold List.filterM
    rw [List.filterAuxM]
    cases f x <;> rfl
  rw [hsteps]
  cases f x with
  | error fault => rfl
  | ok keep =>
      simp only [bind, Except.bind]
      rw [filterAuxM_eq]
      cases rest.filterM f <;> cases keep <;> simp [bind, Except.bind, pure, Except.pure]

theorem mem_of_filterM (h : xs.filterM f = .ok kept) {x : α} (hx : x ∈ kept) :
    x ∈ xs ∧ f x = .ok true := by
  induction xs generalizing kept with
  | nil =>
      cases h
      cases hx
  | cons head rest ih =>
      rw [filterM_cons] at h
      obtain ⟨keep, hhead, h⟩ := bind_eq_ok.mp h
      obtain ⟨more, hmore, h⟩ := bind_eq_ok.mp h
      have hrest : x ∈ more → x ∈ head :: rest ∧ f x = .ok true :=
        fun hmem => (ih hmore hmem).imp_left (List.mem_cons_of_mem _)
      cases h
      cases keep with
      | false => exact hrest hx
      | true =>
          rcases List.mem_cons.mp hx with rfl | hx
          · exact ⟨by simp, hhead⟩
          · exact hrest hx

theorem exists_of_filterM_error (h : xs.filterM f = .error fault) :
    ∃ x ∈ xs, f x = .error fault := by
  induction xs with
  | nil => cases h
  | cons head rest ih =>
      rw [filterM_cons] at h
      rcases bind_eq_error.mp h with hhead | ⟨keep, -, h⟩
      · exact ⟨head, by simp, hhead⟩
      · rcases bind_eq_error.mp h with hrest | ⟨more, -, h⟩
        · obtain ⟨x, hx, hfault⟩ := ih hrest
          exact ⟨x, List.mem_cons_of_mem _ hx, hfault⟩
        · cases h

theorem filterM_congr (h : ∀ x ∈ xs, f x = g x) : xs.filterM f = xs.filterM g := by
  induction xs with
  | nil => rfl
  | cons x rest ih =>
      rw [filterM_cons, filterM_cons, h x (by simp),
        ih fun y hy => h y (List.mem_cons_of_mem _ hy)]

theorem filterM_ok {keep : α → Bool} (h : ∀ x ∈ xs, f x = .ok (keep x)) :
    xs.filterM f = .ok (xs.filter keep) := by
  induction xs with
  | nil => rfl
  | cons x rest ih =>
      rw [filterM_cons, h x (by simp), ih fun y hy => h y (List.mem_cons_of_mem _ hy)]
      cases hx : keep x <;> simp [hx, bind, Except.bind, pure, Except.pure]

/-- A filter is refused as soon as one of its items is. -/
theorem exists_filterM_error {x : α} (hx : x ∈ xs) (hfault : f x = .error fault) :
    ∃ refusal, xs.filterM f = .error refusal := by
  cases hfilter : xs.filterM f with
  | error refusal => exact ⟨refusal, rfl⟩
  | ok kept =>
      exfalso
      induction xs generalizing kept with
      | nil => cases hx
      | cons head rest ih =>
          rw [filterM_cons] at hfilter
          obtain ⟨keep, hhead, hfilter⟩ := bind_eq_ok.mp hfilter
          obtain ⟨more, hmore, -⟩ := bind_eq_ok.mp hfilter
          rcases List.mem_cons.mp hx with rfl | hx
          · cases hfault.symm.trans hhead
          · exact ih hx more hmore

end AsmNavigator
