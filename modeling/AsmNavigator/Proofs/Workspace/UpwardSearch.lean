import AsmNavigator.Proofs.Workspace.Listing
import AsmNavigator.Workspace.Roots

/-! # Searches upwards from a file

The directories above a file form a chain, from its own directory to the one that is its
own parent. A search asks a first number of them, nearest first, and ends at the first hit:
it finds the nearest that has what is looked for, and asking more of them changes nothing
once there is a hit.
-/

namespace AsmNavigator

/-! ## The chain of directories above a file -/

namespace Path

/-- The directories above a file, its own first. -/
def above (file : Path) : Nat → Path
  | 0 => file.parent
  | n + 1 => (above file n).parent

/-- No directory before the given one is its own parent. -/
def Climbs (file : Path) (n : Nat) : Prop :=
  ∀ m < n, file.above (m + 1) ≠ file.above m

theorem above_parent (file : Path) (n : Nat) : file.parent.above n = file.above (n + 1) := by
  induction n with
  | zero => rfl
  | succ n ih => exact congrArg Path.parent ih

theorem climbs_succ_iff (file : Path) (n : Nat) :
    file.Climbs (n + 1) ↔ file.above 1 ≠ file.above 0 ∧ file.parent.Climbs n := by
  constructor
  · intro h
    refine ⟨h 0 (Nat.succ_pos n), fun m hm => ?_⟩
    rw [above_parent, above_parent]
    exact h (m + 1) (Nat.succ_lt_succ hm)
  · rintro ⟨hfirst, hrest⟩ m hm
    cases m with
    | zero => exact hfirst
    | succ m =>
        have hlater := hrest m (Nat.lt_of_succ_lt_succ hm)
        rwa [above_parent, above_parent] at hlater

/-- The ancestors are the chain, cut off at the depth and at its fixed point. -/
theorem getElem?_ancestors (file : Path) (depth n : Nat) {directory : Path} :
    (file.parent.ancestors depth)[n]? = some directory ↔
      n < depth ∧ file.Climbs n ∧ directory = file.above n := by
  induction depth generalizing file n with
  | zero => simp [ancestors]
  | succ depth ih =>
      cases n with
      | zero =>
          rw [ancestors, List.getElem?_cons_zero, Option.some.injEq]
          have hclimbs : file.Climbs 0 := fun m hm => absurd hm (Nat.not_lt_zero m)
          simp [hclimbs, above, eq_comm]
      | succ n =>
          rw [ancestors, List.getElem?_cons_succ, climbs_succ_iff, Nat.succ_lt_succ_iff]
          split
          · next hfixed => simp [above, hfixed]
          · next hfixed =>
              rw [ih, above_parent]
              simp [above, hfixed]

theorem ancestors_isPrefix (p : Path) {depth depth' : Nat} (h : depth ≤ depth') :
    p.ancestors depth <+: p.ancestors depth' := by
  induction depth generalizing p depth' with
  | zero => exact List.nil_prefix
  | succ depth ih =>
      obtain ⟨more, rfl⟩ := Nat.exists_eq_add_of_le' h
      rw [← Nat.add_assoc, ancestors, ancestors]
      split
      · exact List.prefix_rfl
      · exact (List.prefix_cons_inj p).mpr (ih p.parent (Nat.le_add_left ..))

end Path

namespace Workspace

/-! ## The nearest directory -/

def IsNearest (P : Path → Prop) (file : Path) (depth : Nat) (directory : Path) : Prop :=
  ∃ n < depth, file.Climbs n ∧ directory = file.above n ∧ P directory ∧
    ∀ m < n, ¬ P (file.above m)

theorem IsNearest.unique {P : Path → Prop} {file directory directory' : Path} {depth : Nat}
    (h : IsNearest P file depth directory) (h' : IsNearest P file depth directory') :
    directory = directory' := by
  obtain ⟨n, -, -, rfl, hn, hbefore⟩ := h
  obtain ⟨m, -, -, rfl, hm, hbefore'⟩ := h'
  rcases Nat.lt_trichotomy n m with hlt | rfl | hgt
  · exact absurd hn (hbefore' n hlt)
  · rfl
  · exact absurd hm (hbefore m hgt)

/-- The outcome of a search for the nearest directory with a property: it is that one, and
there is none exactly if none of the directories has the property. The search is refused
only if a question about one of them is. -/
def FindsNearest (P : Path → Prop) (ask : Path → Except Fault Bool) (file : Path) (depth : Nat) :
    Except Fault (Option Path) → Prop
  | .ok found? =>
      (∀ directory, found? = some directory ↔ IsNearest P file depth directory) ∧
        (found? = none ↔ ∀ n < depth, file.Climbs n → ¬ P (file.above n))
  | .error fault => ∃ n < depth, file.Climbs n ∧ ask (file.above n) = .error fault

variable {test : Path → Except Fault Bool} {file : Path} {depth : Nat}

theorem mem_ancestors_iff {directory : Path} :
    directory ∈ file.parent.ancestors depth ↔
      ∃ n < depth, file.Climbs n ∧ directory = file.above n := by
  rw [List.mem_iff_getElem?]
  simp only [Path.getElem?_ancestors]

theorem eq_false_of_firstDirectory_miss {directory : Path}
    (h : (do return if ← test directory then some directory else none) = Except.ok none) :
    test directory = .ok false := by
  obtain ⟨holds, htest, h⟩ := bind_eq_ok.mp h
  cases holds with
  | false => exact htest
  | true => cases h

theorem eq_true_of_firstDirectory_hit {directory found : Path}
    (h : (do return if ← test directory then some directory else none) = Except.ok (some found)) :
    test directory = .ok true ∧ directory = found := by
  obtain ⟨holds, htest, h⟩ := bind_eq_ok.mp h
  cases holds with
  | false => cases h
  | true =>
      cases h
      exact ⟨htest, rfl⟩

variable {P : Path → Prop}

theorem isNearest_of_firstDirectory
    (hok : ∀ directory holds, test directory = .ok holds → (holds = true ↔ P directory))
    {found : Path} (h : firstDirectory test (file.parent.ancestors depth) = .ok (some found)) :
    IsNearest P file depth found := by
  obtain ⟨before, directory, after, hsplit, hbefore, hhit⟩ := exists_of_firstHit_eq_some h
  obtain ⟨htest, rfl⟩ := eq_true_of_firstDirectory_hit hhit
  have hplace : (file.parent.ancestors depth)[before.length]? = some directory := by
    rw [hsplit, List.getElem?_append_right (Nat.le_refl _), Nat.sub_self,
      List.getElem?_cons_zero]
  obtain ⟨hdepth, hclimbs, rfl⟩ := (Path.getElem?_ancestors ..).mp hplace
  refine ⟨before.length, hdepth, hclimbs, rfl, (hok _ _ htest).mp rfl, fun m hm hP => ?_⟩
  have hearlier : (file.parent.ancestors depth)[m]? = some before[m] := by
    rw [hsplit, List.getElem?_append_left hm, List.getElem?_eq_getElem hm]
  obtain ⟨-, -, hmiss⟩ := (Path.getElem?_ancestors ..).mp hearlier
  have hfalse := eq_false_of_firstDirectory_miss (hbefore _ (List.getElem_mem hm))
  rw [hmiss] at hfalse
  exact absurd ((hok _ _ hfalse).mpr hP) Bool.false_ne_true

theorem not_of_firstDirectory_none
    (hok : ∀ directory holds, test directory = .ok holds → (holds = true ↔ P directory))
    (h : firstDirectory test (file.parent.ancestors depth) = .ok none) {n : Nat}
    (hn : n < depth) (hclimbs : file.Climbs n) : ¬ P (file.above n) := by
  intro hP
  have hmiss := eq_none_of_firstHit_eq_none h (mem_ancestors_iff.mpr ⟨n, hn, hclimbs, rfl⟩)
  have hfalse := eq_false_of_firstDirectory_miss hmiss
  exact absurd ((hok _ _ hfalse).mpr hP) Bool.false_ne_true

theorem findsNearest_firstDirectory {ask : Path → Except Fault Bool}
    (hok : ∀ directory holds, test directory = .ok holds → (holds = true ↔ P directory))
    (herror : ∀ directory fault, test directory = .error fault → ask directory = .error fault)
    (file : Path) (depth : Nat) :
    FindsNearest P ask file depth (firstDirectory test (file.parent.ancestors depth)) := by
  cases houtcome : firstDirectory test (file.parent.ancestors depth) with
  | error fault =>
      obtain ⟨directory, hmem, hfault⟩ := exists_of_firstHit_error houtcome
      obtain ⟨n, hn, hclimbs, rfl⟩ := mem_ancestors_iff.mp hmem
      rcases bind_eq_error.mp hfault with htest | ⟨holds, -, hreturn⟩
      · exact ⟨n, hn, hclimbs, herror _ _ htest⟩
      · cases hreturn
  | ok found? =>
      cases found? with
      | none =>
          have hnone : ∀ n < depth, file.Climbs n → ¬ P (file.above n) :=
            fun n => not_of_firstDirectory_none hok houtcome
          refine ⟨fun directory => iff_of_false nofun ?_, iff_of_true rfl hnone⟩
          rintro ⟨n, hn, hclimbs, rfl, hP, -⟩
          exact hnone n hn hclimbs hP
      | some found =>
          have hnearest := isNearest_of_firstDirectory hok houtcome
          constructor
          · intro directory
            constructor
            · rintro ⟨⟩
              exact hnearest
            · exact fun h => congrArg some (hnearest.unique h)
          · obtain ⟨n, hn, hclimbs, rfl, hP, -⟩ := hnearest
            exact iff_of_false nofun fun hnone => hnone n hn hclimbs hP

/-- A search with a hit is the same over a longer list. -/
theorem firstHit_of_isPrefix {α β : Type} {f : α → Except Fault (Option β)} {xs ys : List α}
    (hfront : xs <+: ys) {b : β} (h : firstHit f xs = .ok (some b)) :
    firstHit f ys = .ok (some b) := by
  obtain ⟨more, rfl⟩ := hfront
  induction xs with
  | nil => cases h
  | cons x rest ih =>
      obtain ⟨found?, hx, h⟩ := bind_eq_ok.mp h
      rw [List.cons_append, firstHit, hx]
      cases found? with
      | some found => exact h
      | none => exact ih h

end Workspace

end AsmNavigator
