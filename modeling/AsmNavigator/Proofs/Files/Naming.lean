import AsmNavigator.Proofs.Files.Place

/-! # The paths of a tree

A path in normal form climbs first and descends then. A path that leads somewhere is made
of names that the tree lists and of `..`, and has fewer components than a path may have
bytes. Symbolic links can lead back, so one file can have very many paths, but there is a
last one.
-/

namespace AsmNavigator

namespace Path

/-- Climbs first and descends then; an absolute path does not climb. -/
def IsNormal (p : Path) : Prop :=
  ∃ climbs rest, p.parts = List.replicate climbs ".." ++ rest ∧ ".." ∉ rest ∧
    (p.isAbsolute = true → climbs = 0)

/-! ## Normal forms are normal -/

def IsNormalStack (absolute : Bool) (stack : List String) : Prop :=
  ∃ climbs rest, stack = rest ++ List.replicate climbs ".." ∧ ".." ∉ rest ∧
    (absolute = true → climbs = 0)

theorem isNormalStack_pushPart {absolute : Bool} {stack : List String} (part : String)
    (h : IsNormalStack absolute stack) : IsNormalStack absolute (pushPart absolute stack part) := by
  obtain ⟨climbs, rest, rfl, hrest, habs⟩ := h
  unfold pushPart
  split
  · next hdots =>
      subst hdots
      cases rest with
      | nil =>
          cases climbs with
          | zero =>
              cases absolute with
              | true => exact ⟨0, [], rfl, by simp, fun _ => rfl⟩
              | false => exact ⟨1, [], rfl, by simp, by simp⟩
          | succ climbs =>
              refine ⟨climbs + 2, [], by simp [List.replicate_succ], by simp, ?_⟩
              intro h
              exact absurd (habs h) (Nat.succ_ne_zero climbs)
      | cons top rest =>
          have htop : top ≠ ".." := by
            intro heq
            exact hrest (by simp [heq])
          simp only [List.cons_append, if_neg htop]
          exact ⟨climbs, rest, rfl, fun h => hrest (List.mem_cons_of_mem _ h), habs⟩
  · next hdots =>
      refine ⟨climbs, part :: rest, rfl, ?_, habs⟩
      intro h
      rcases List.mem_cons.mp h with h | h
      · exact hdots h.symm
      · exact hrest h

theorem isNormalStack_foldl {absolute : Bool} (parts : List String) {stack : List String}
    (h : IsNormalStack absolute stack) :
    IsNormalStack absolute (parts.foldl (pushPart absolute) stack) := by
  induction parts generalizing stack with
  | nil => exact h
  | cons part rest ih => exact ih (isNormalStack_pushPart part h)

theorem isNormal_normalize (p : Path) : p.normalize.IsNormal := by
  have hstack : IsNormalStack p.isAbsolute (p.parts.foldl (pushPart p.isAbsolute) []) :=
    isNormalStack_foldl p.parts ⟨0, [], rfl, by simp, fun _ => rfl⟩
  obtain ⟨climbs, rest, heq, hrest, habs⟩ := hstack
  refine ⟨climbs, rest.reverse, ?_, by simpa using hrest, habs⟩
  show (p.parts.foldl (pushPart p.isAbsolute) []).reverse = _
  rw [heq]
  simp

/-- An absolute path in normal form has no `..`. -/
theorem IsNormal.not_mem {p : Path} (h : p.IsNormal) (habs : p.isAbsolute = true) :
    ".." ∉ p.parts := by
  obtain ⟨climbs, rest, heq, hrest, hclimbs⟩ := h
  rw [heq, hclimbs habs]
  simpa using hrest

end Path

/-! ## The paths that lead somewhere -/

/-- The lists of at most so many of the given names. -/
def partsOver (names : List String) : Nat → List (List String)
  | 0 => [[]]
  | depth + 1 => [] :: names.flatMap fun name => (partsOver names depth).map (name :: ·)

theorem mem_partsOver {names parts : List String} {depth : Nat} (hlength : parts.length ≤ depth)
    (hnames : ∀ part ∈ parts, part ∈ names) : parts ∈ partsOver names depth := by
  induction depth generalizing parts with
  | zero => simp [partsOver, List.eq_nil_of_length_eq_zero (Nat.le_zero.mp hlength)]
  | succ depth ih =>
      cases parts with
      | nil => simp [partsOver]
      | cons part rest =>
          have hrest := ih (Nat.le_of_succ_le_succ hlength) fun other hother =>
            hnames other (List.mem_cons_of_mem _ hother)
          refine List.mem_cons_of_mem _ (List.mem_flatMap.mpr ⟨part, hnames part (by simp), ?_⟩)
          exact List.mem_map_of_mem hrest

theorem length_partsOver_le (names : List String) (depth : Nat) :
    (partsOver names depth).length ≤ (names.length + 1) ^ depth := by
  induction depth with
  | zero => simp [partsOver]
  | succ depth ih =>
      have hone : 1 ≤ (names.length + 1) ^ depth := Nat.one_le_pow _ _ (Nat.succ_pos _)
      have hmore : names.length * (partsOver names depth).length ≤
          names.length * (names.length + 1) ^ depth := Nat.mul_le_mul_left _ ih
      simp only [partsOver, List.length_cons, List.length_flatMap, List.length_map,
        List.map_const', List.sum_replicate_nat, Nat.pow_succ, Nat.mul_add, Nat.mul_one]
      rw [Nat.mul_comm ((names.length + 1) ^ depth)]
      omega

namespace Path

theorem length_le_joinedSize (parts : List String) : parts.length ≤ joinedSize parts := by
  induction parts with
  | nil => exact Nat.zero_le _
  | cons part rest ih =>
      simp only [joinedSize, List.map_cons, List.sum_cons, List.length_cons] at ih ⊢
      omega

theorem Expressible.length_le {p : Path} (h : p.Expressible) :
    p.parts.length ≤ FileTree.pathLimit := by
  have hshort := h.short
  have hlength := length_le_joinedSize p.parts
  rw [size_toString] at hshort
  split at hshort
  · next hempty => simp [hempty.2]
  · omega

end Path

namespace FileTree

variable {tree : FileTree}

/-- What a component of a path can be, if the path leads somewhere. -/
def components (tree : FileTree) : List String :=
  ".." :: tree.nodes.keys.filterMap List.getLast?

theorem length_components_le (tree : FileTree) :
    tree.components.length ≤ tree.nodes.size + 1 := by
  have hnames := List.length_filterMap_le List.getLast? tree.nodes.keys
  simp only [OrderedMap.keys, List.length_map] at hnames
  simpa [components, OrderedMap.size, OrderedMap.keys] using hnames

theorem mem_keys_of_reached {place q : List String} (hne : place ≠ [])
    (h : tree.reached? place = some q) : place ∈ tree.nodes.keys := by
  rw [OrderedMap.mem_keys_iff]
  cases hnode : tree.nodes.get? place with
  | some node => rfl
  | none =>
      have hentry : tree.entryAt? place = none := by
        simp [entryAt?, hne, hnode]
      simp [reached?, hentry, link?, hnode] at h

theorem mem_components_of_walk {place parts q : List String} (h : tree.walk place parts = .ok q) :
    ∀ part ∈ parts, part ∈ tree.components := by
  induction parts generalizing place with
  | nil => simp
  | cons part rest ih =>
      obtain ⟨next, hnext, hrest⟩ := walk_cons_ok h
      refine List.forall_mem_cons.mpr ⟨?_, ih hrest⟩
      obtain ⟨-, ⟨rfl, -⟩ | ⟨-, -, hreached⟩⟩ := enter_ok_iff.mp hnext
      · exact List.mem_cons_self
      · have hkey := mem_keys_of_reached (by simp) hreached
        exact List.mem_cons_of_mem _ (List.mem_filterMap.mpr ⟨_, hkey, by simp⟩)

end FileTree

end AsmNavigator
