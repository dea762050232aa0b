import AsmNavigator.Proofs.Files.Sound

/-! # Why a path is refused

A path that can be handed to the operating system is refused for one of its reasons, and
a question whether something is a file or a directory is refused for one reason only: the
path, or a name on the way, is too long.
-/

namespace AsmNavigator

/-- A name without null characters and with no surrogate but those that stand for bytes. -/
def IsOrdinaryName (name : String) : Prop :=
  ∀ ch ∈ name.toList, Text.isNameChar ch = true ∧ ch ≠ '\x00'

instance (name : String) : Decidable (IsOrdinaryName name) :=
  List.decidableBAll (fun ch => Text.isNameChar ch = true ∧ ch ≠ '\x00') name.toList

namespace Path

structure IsEncodable (p : Path) : Prop where
  encodable : Text.SurrogateRun.inFileName? p.toString = none
  noNull : FileTree.hasNull p = false

theorem isEncodable_iff {p : Path} :
    p.IsEncodable ↔ ∀ part ∈ p.parts, IsOrdinaryName part := by
  constructor
  · intro h part hpart ch hch
    have hall := (Text.SurrogateRun.inFileName?_eq_none_iff _).mp h.encodable
    have hnull := h.noNull
    simp only [FileTree.hasNull, List.any_eq_false] at hnull
    refine ⟨hall ch (mem_toString_of_mem hpart hch), ?_⟩
    rintro rfl
    exact hnull part hpart (by simpa using hch)
  · intro h
    refine ⟨?_, ?_⟩
    · rw [Text.SurrogateRun.inFileName?_eq_none_iff]
      intro ch hch
      rcases mem_toString hch with rfl | rfl | ⟨part, hpart, hin⟩
      · decide
      · decide
      · exact (h part hpart ch hin).1
    · simp only [FileTree.hasNull, List.any_eq_false]
      intro part hpart
      simpa using fun hmem => (h part hpart _ hmem).2 rfl

theorem IsEncodable.below {p : Path} (h : p.IsEncodable) {names : List String}
    (hnames : ∀ name ∈ names, IsOrdinaryName name) : (p.below names).IsEncodable := by
  rw [isEncodable_iff] at h ⊢
  intro part hpart
  rcases List.mem_append.mp hpart with hpart | hpart
  · exact h part hpart
  · exact hnames part hpart

theorem IsEncodable.of_below {p : Path} {names : List String} (h : (p.below names).IsEncodable) :
    p.IsEncodable := by
  rw [isEncodable_iff] at h ⊢
  intro part hpart
  exact h part (List.mem_append_left _ hpart)

theorem Expressible.isEncodable {p : Path} (h : p.Expressible) : p.IsEncodable :=
  ⟨h.encodable, h.noNull⟩

/-- A path that could be looked up, were it shorter. -/
structure IsTooLong (p : Path) : Prop where
  encodable : Text.SurrogateRun.inFileName? p.toString = none
  noNull : FileTree.hasNull p = false
  long : FileTree.pathLimit ≤ Text.nameSize p.toString

theorem IsTooLong.not_expressible {p : Path} (h : p.IsTooLong) : ¬ p.Expressible :=
  fun hexpressible => absurd hexpressible.short (Nat.not_lt.mpr h.long)

theorem IsEncodable.expressible_or_isTooLong {p : Path} (h : p.IsEncodable) :
    p.Expressible ∨ p.IsTooLong := by
  by_cases hshort : Text.nameSize p.toString < FileTree.pathLimit
  · exact .inl ⟨h.encodable, h.noNull, hshort⟩
  · exact .inr ⟨h.encodable, h.noNull, Nat.not_lt.mp hshort⟩

/-- One more ordinary name can only make a path too long. -/
theorem Expressible.below {p : Path} (h : p.Expressible) {name : String}
    (hname : IsOrdinaryName name) :
    (p.below [name]).Expressible ∨ (p.below [name]).IsTooLong :=
  (h.isEncodable.below (by simpa using hname)).expressible_or_isTooLong

/-- A path that is too long, or that needs a name that is too long. -/
def IsOverLong (p cwd : Path) : Prop :=
  FileTree.pathLimit ≤ Text.nameSize p.toString ∨
    ∃ part ∈ FileTree.fromTop cwd p, FileTree.nameLimit < Text.nameSize part

end Path

namespace FileTree

variable {tree : FileTree} {cwd p : Path}

/-! ## Paths that are too long -/

theorem locate_of_isTooLong (h : p.IsTooLong) :
    tree.locate cwd p = .error (.os .nameTooLong p.toString) := by
  unfold locate
  rw [h.encodable, h.noNull]
  simp only [Bool.false_eq_true, if_false, ge_iff_le, h.long, if_true]

theorem isDirectory_of_isTooLong (h : p.IsTooLong) :
    tree.isDirectory cwd p = .error (.os .nameTooLong p.toString) := by
  unfold isDirectory probe stat
  rw [locate_of_isTooLong h]
  rfl

theorem isDirectory_of_not_expressible (h : ¬ p.Expressible) (hlong : ¬ p.IsTooLong) :
    tree.isDirectory cwd p = .ok false := by
  unfold isDirectory probe stat locate
  cases hencodable : Text.SurrogateRun.inFileName? p.toString with
  | some run => rfl
  | none =>
      cases hnull : hasNull p with
      | true => rfl
      | false =>
          have hp : p.IsEncodable := ⟨hencodable, hnull⟩
          exact hp.expressible_or_isTooLong.elim (absurd · h) (absurd · hlong)

theorem size_of_enter_nameTooLong {place : List String} {part : String}
    (h : tree.enter place part = .error .nameTooLong) : nameLimit < Text.nameSize part := by
  unfold enter at h
  split at h
  · cases h
  · split at h
    · cases h
    · split at h
      · next hsize => exact hsize
      · split at h <;> cases h

theorem exists_of_walk_nameTooLong {place parts : List String}
    (h : tree.walk place parts = .error .nameTooLong) :
    ∃ part ∈ parts, nameLimit < Text.nameSize part := by
  induction parts generalizing place with
  | nil => cases h
  | cons part rest ih =>
      rw [walk_cons] at h
      cases hnext : tree.enter place part with
      | error cause =>
          rw [hnext] at h
          cases h
          exact ⟨part, by simp, size_of_enter_nameTooLong hnext⟩
      | ok next =>
          rw [hnext] at h
          obtain ⟨long, hlong, hsize⟩ := ih h
          exact ⟨long, List.mem_cons_of_mem _ hlong, hsize⟩

theorem isOverLong_of_stat {text : String}
    (h : tree.stat cwd p = .error (.os .nameTooLong text)) :
    text = p.toString ∧ p.IsOverLong cwd := by
  have hlocate : tree.locate cwd p = .error (.os .nameTooLong text) := by
    unfold stat at h
    cases hplace : tree.locate cwd p with
    | error fault =>
        rw [hplace] at h
        cases h
        rfl
    | ok place =>
        rw [hplace] at h
        simp only at h
        split at h <;> cases h
  by_cases hexpressible : p.Expressible
  · rw [locate_eq hexpressible] at hlocate
    cases hwalk : tree.walk [] (fromTop cwd p) with
    | ok place =>
        rw [hwalk] at hlocate
        cases hlocate
    | error cause =>
        rw [hwalk] at hlocate
        cases hlocate
        exact ⟨rfl, .inr (exists_of_walk_nameTooLong hwalk)⟩
  · unfold locate at hlocate
    split at hlocate
    · cases hlocate
    · next hencodable =>
        split at hlocate
        · cases hlocate
        · next hnull =>
            have hp : p.IsEncodable := ⟨hencodable, by simpa using hnull⟩
            have hlong := (hp.expressible_or_isTooLong.resolve_left hexpressible).long
            rw [if_pos hlong] at hlocate
            cases hlocate
            exact ⟨rfl, .inl hlong⟩

theorem isOverLong_of_probe {fault : Fault} (h : tree.probe cwd p = .error fault) :
    fault = .os .nameTooLong p.toString ∧ p.IsOverLong cwd := by
  unfold probe at h
  split at h
  · cases h
  · next text hstat =>
      obtain ⟨rfl, hlong⟩ := isOverLong_of_stat hstat
      cases h
      exact ⟨rfl, hlong⟩
  · cases h

theorem isOverLong_of_isFile {fault : Fault} (h : tree.isFile cwd p = .error fault) :
    fault = .os .nameTooLong p.toString ∧ p.IsOverLong cwd := by
  unfold isFile at h
  rcases hprobe : tree.probe cwd p with refusal | _ | _ | _
  all_goals
    rw [hprobe] at h
    cases h
  exact isOverLong_of_probe hprobe

theorem isOverLong_of_isDirectory {fault : Fault} (h : tree.isDirectory cwd p = .error fault) :
    fault = .os .nameTooLong p.toString ∧ p.IsOverLong cwd := by
  unfold isDirectory at h
  rcases hprobe : tree.probe cwd p with refusal | _ | _ | _
  all_goals
    rw [hprobe] at h
    cases h
  exact isOverLong_of_probe hprobe

/-! ## Paths that can be handed over -/

theorem list_os_of_isEncodable (hp : p.IsEncodable) {fault : Fault}
    (h : tree.list cwd p = .error fault) : ∃ cause, fault = .os cause p.toString := by
  rcases hp.expressible_or_isTooLong with hexpressible | hlong
  · exact list_refused hexpressible h
  · unfold FileTree.list at h
    rw [locate_of_isTooLong hlong] at h
    cases h
    exact ⟨_, rfl⟩

theorem readBytes_os_of_isEncodable (hp : p.IsEncodable) {fault : Fault}
    (h : tree.readBytes cwd p = .error fault) : ∃ cause, fault = .os cause p.toString := by
  rcases hp.expressible_or_isTooLong with hexpressible | hlong
  · exact readBytes_refused hexpressible h
  · unfold readBytes stat at h
    rw [locate_of_isTooLong hlong] at h
    cases h
    exact ⟨_, rfl⟩

end FileTree

end AsmNavigator
