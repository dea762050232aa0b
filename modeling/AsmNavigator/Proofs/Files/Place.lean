import AsmNavigator.Files.World
import AsmNavigator.Proofs.Data.Encoding
import AsmNavigator.Proofs.Data.OrderedMap
import Mathlib.Algebra.GroupWithZero.Nat

/-! # Where a path leads

A walk that succeeds ends at the place that the components spell out, each `..` undoing
the component before it. So a path and its normal form lead to the same file, and a file
below a directory shows that the directory is there. A path that can be looked up at all
(`Expressible`) stays so when components are taken away.
-/

namespace AsmNavigator

namespace FileTree

variable {tree : FileTree} {cwd : Path}

/-! ## Walks -/

theorem walk_cons (tree : FileTree) (place : List String) (part : String) (rest : List String) :
    tree.walk place (part :: rest) = tree.enter place part >>= fun next => tree.walk next rest := by
  conv => lhs; unfold walk
  cases tree.enter place part <;> rfl

theorem walk_single (tree : FileTree) (place : List String) (part : String) :
    tree.walk place [part] = tree.enter place part := by
  unfold walk
  cases tree.enter place part <;> rfl

theorem walk_append (tree : FileTree) (place xs ys : List String) :
    tree.walk place (xs ++ ys) = tree.walk place xs >>= fun next => tree.walk next ys := by
  induction xs generalizing place with
  | nil => rfl
  | cons part rest ih =>
      rw [List.cons_append, walk_cons, walk_cons]
      cases tree.enter place part with
      | error cause => rfl
      | ok next => exact ih next

theorem walk_append_ok {place xs ys q : List String} (h : tree.walk place (xs ++ ys) = .ok q) :
    ∃ middle, tree.walk place xs = .ok middle ∧ tree.walk middle ys = .ok q := by
  rw [walk_append] at h
  cases hx : tree.walk place xs with
  | error cause => simp [hx, bind, Except.bind] at h
  | ok middle => exact ⟨middle, rfl, by simpa [hx, bind, Except.bind] using h⟩

theorem walk_cons_ok {place rest q : List String} {part : String}
    (h : tree.walk place (part :: rest) = .ok q) :
    ∃ next, tree.enter place part = .ok next ∧ tree.walk next rest = .ok q := by
  rw [← List.singleton_append] at h
  obtain ⟨next, hnext, hrest⟩ := walk_append_ok h
  rw [walk_single] at hnext
  exact ⟨next, hnext, hrest⟩

theorem walk_append_of_ok {place xs ys middle : List String}
    (h : tree.walk place xs = .ok middle) :
    tree.walk place (xs ++ ys) = tree.walk middle ys := by
  rw [walk_append, h]
  rfl

/-- One component is entered from a directory. It leads up, or to what is reached under
its name. -/
theorem enter_ok_iff {place q : List String} {part : String} :
    tree.enter place part = .ok q ↔ tree.entryAt? place = some .directory ∧
      ((part = ".." ∧ q = place.dropLast) ∨
        (part ≠ ".." ∧ Text.nameSize part ≤ nameLimit ∧
          tree.reached? (place ++ [part]) = some q)) := by
  unfold enter
  rcases tree.entryAt? place with _ | _ | _
  · simp
  · simp [Entry.isDirectory]
  · simp only [Option.any_some, Entry.isDirectory, Bool.not_true, Bool.false_eq_true, if_false,
      true_and]
    by_cases hup : part = ".."
    · simp [hup, eq_comm]
    · by_cases hlong : Text.nameSize part > nameLimit
      · simp [hup, hlong, Nat.not_le.mpr hlong]
      · rw [if_neg hup, if_neg hlong]
        cases tree.reached? (place ++ [part]) <;> simp [hup, Nat.not_lt.mp hlong]

theorem directory_of_enter {place q : List String} {part : String}
    (h : tree.enter place part = .ok q) : tree.entryAt? place = some .directory :=
  (enter_ok_iff.mp h).1

/-- What is reached at a place that holds no link is the place itself. -/
theorem eq_of_reached {place q : List String} (h : tree.reached? place = some q)
    (hlink : tree.link? place = none) : q = place := by
  unfold reached? at h
  split at h
  · exact (Option.some.inj h).symm
  · rw [hlink] at h
    cases h

/-- A walk ends at what is reached under the name of its last component. -/
theorem exists_reached_of_walk_concat {place parts q : List String} {name : String}
    (hname : name ≠ "..") (h : tree.walk place (parts ++ [name]) = .ok q) :
    ∃ above, tree.reached? (above ++ [name]) = some q := by
  obtain ⟨above, -, hlast⟩ := walk_append_ok h
  rw [walk_single] at hlast
  obtain ⟨-, ⟨hup, -⟩ | ⟨-, -, hreached⟩⟩ := enter_ok_iff.mp hlast
  · exact absurd hup hname
  · exact ⟨above, hreached⟩

/-! ## Walks that meet no link -/

/-- The place that one component leads to, by its text alone. -/
def byText (place : List String) (part : String) : List String :=
  if part = ".." then place.dropLast else place ++ [part]

/-- No component that is entered on the way is a symbolic link. -/
structure IsStraight (tree : FileTree) (place parts : List String) : Prop where
  noLink : ∀ {before part after reached}, parts = before ++ part :: after → part ≠ ".." →
    tree.walk place before = .ok reached → tree.link? (reached ++ [part]) = none

namespace IsStraight

variable {place rest q : List String} {part : String}

theorem nil (tree : FileTree) (place : List String) : tree.IsStraight place [] :=
  ⟨fun heq => by simp at heq⟩

theorem tail (h : tree.IsStraight place (part :: rest)) (hq : tree.enter place part = .ok q) :
    tree.IsStraight q rest := by
  refine ⟨fun {before} _ _ _ heq hup hreached => ?_⟩
  refine h.noLink (by rw [heq, ← List.cons_append]) hup ?_
  rw [walk_cons, hq]
  exact hreached

theorem of_append {xs ys : List String} (h : tree.IsStraight place (xs ++ ys)) :
    tree.IsStraight place xs := by
  refine ⟨fun {before part after _} heq hup hreached => ?_⟩
  have hlonger : xs ++ ys = before ++ part :: (after ++ ys) := by simp [heq]
  exact h.noLink hlonger hup hreached

/-- The last component of a straight walk leads where its text says. -/
theorem last {xs middle : List String} (h : tree.IsStraight place (xs ++ [part]))
    (hmiddle : tree.walk place xs = .ok middle) (hq : tree.enter middle part = .ok q) :
    q = byText middle part := by
  unfold byText
  obtain ⟨-, ⟨hup, heq⟩ | ⟨hup, -, hreached⟩⟩ := enter_ok_iff.mp hq
  · rw [if_pos hup, heq]
  · rw [if_neg hup]
    exact eq_of_reached hreached (h.noLink rfl hup hmiddle)

/-- One more component that is no link. -/
theorem snoc {xs middle : List String} (h : tree.IsStraight place xs)
    (hmiddle : tree.walk place xs = .ok middle)
    (hpart : part ≠ ".." → tree.link? (middle ++ [part]) = none) :
    tree.IsStraight place (xs ++ [part]) := by
  refine ⟨fun {before other after reached} heq hup hreached => ?_⟩
  rcases List.eq_nil_or_concat after with rfl | ⟨after, last, rfl⟩
  · obtain ⟨rfl, hlast⟩ := List.append_inj' heq rfl
    obtain rfl := List.singleton_inj.mp hlast
    rw [hmiddle] at hreached
    cases hreached
    exact hpart hup
  · rw [List.concat_eq_append, ← List.cons_append, ← List.append_assoc] at heq
    obtain ⟨rfl, -⟩ := List.append_inj' heq rfl
    exact h.noLink rfl hup hreached

/-- Going up after a component that is no link takes it back. -/
theorem up {xs reached : List String} (h : tree.IsStraight place (xs ++ [part]))
    (hreached : tree.walk place (xs ++ [part]) = .ok reached) (hpart : part ≠ "..") :
    tree.walk place xs = .ok reached.dropLast ∧ tree.IsStraight place xs := by
  obtain ⟨middle, hmiddle, hlast⟩ := walk_append_ok hreached
  rw [walk_single] at hlast
  have hback : reached.dropLast = middle := by
    rw [h.last hmiddle hlast]
    simp [byText, hpart]
  exact ⟨hback ▸ hmiddle, h.of_append⟩

end IsStraight

/-! ## Walks along a normal form -/

/-- Taking one more component onto the stack follows one more step of a walk. -/
theorem walk_pushPart {absolute : Bool} {base stack place q : List String} {part : String}
    (hbase : absolute = true → base = []) (hstack : tree.walk base stack.reverse = .ok place)
    (hstraight : tree.IsStraight base stack.reverse)
    (hpart : tree.enter place part = .ok q)
    (hlink : part ≠ ".." → tree.link? (place ++ [part]) = none) :
    tree.walk base (Path.pushPart absolute stack part).reverse = .ok q ∧
      tree.IsStraight base (Path.pushPart absolute stack part).reverse := by
  have hkeep : tree.walk base (part :: stack).reverse = .ok q ∧
      tree.IsStraight base (part :: stack).reverse := by
    rw [List.reverse_cons, walk_append_of_ok hstack, walk_single]
    exact ⟨hpart, hstraight.snoc hstack hlink⟩
  unfold Path.pushPart
  split
  · next hdots =>
      subst hdots
      have hq : q = place.dropLast := by simpa using (enter_ok_iff.mp hpart).2
      cases stack with
      | nil =>
          cases absolute with
          | false => simpa using hkeep
          | true =>
              have hplace : place = [] := by
                rw [hbase rfl] at hstack
                simpa [walk] using hstack.symm
              subst hplace
              exact ⟨by simpa [walk, hbase rfl] using hq.symm, .nil tree base⟩
      | cons top rest =>
          simp only
          split
          · exact hkeep
          · next htop =>
              rw [List.reverse_cons] at hstack hstraight
              rw [hq]
              exact hstraight.up hstack htop
  · exact hkeep

theorem walk_foldl_pushPart {absolute : Bool} {base stack place parts q : List String}
    (hbase : absolute = true → base = []) (hstack : tree.walk base stack.reverse = .ok place)
    (hstraight : tree.IsStraight base stack.reverse) (hparts : tree.IsStraight place parts)
    (h : tree.walk place parts = .ok q) :
    tree.walk base (parts.foldl (Path.pushPart absolute) stack).reverse = .ok q := by
  induction parts generalizing stack place with
  | nil =>
      rw [show place = q by simpa [walk] using h] at hstack
      exact hstack
  | cons part rest ih =>
      obtain ⟨next, hnext, hrest⟩ := walk_cons_ok h
      have hlink : part ≠ ".." → tree.link? (place ++ [part]) = none := fun hup =>
        hparts.noLink (List.nil_append _).symm hup rfl
      obtain ⟨hstack, hstraight⟩ := walk_pushPart hbase hstack hstraight hnext hlink
      exact ih hstack hstraight (hparts.tail hnext) hrest

end FileTree

/-! ## Paths that can be looked up -/

namespace Text

/-- Whether a character may stand in a file name: no surrogate but one that stands for a byte. -/
def isNameChar (c : Char) : Bool := (surrogate? c).all SurrogateRun.isByte

theorem SurrogateRun.inFileName?_eq_none_iff (s : String) :
    inFileName? s = none ↔ ∀ c ∈ s.toList, isNameChar c = true :=
  first?_eq_none_iff isByte s

theorem charsSize_append (cs ds : List Char) :
    charsSize (cs ++ ds) = charsSize cs + charsSize ds := by
  induction cs with
  | nil => simp [charsSize]
  | cons c rest ih => simp only [List.cons_append, charsSize, ih, Nat.add_assoc]

theorem nameSize_append (s t : String) : nameSize (s ++ t) = nameSize s + nameSize t := by
  simp [nameSize, charsSize_append]

end Text

namespace Path

def joinedSize (parts : List String) : Nat :=
  (parts.map fun part => Text.nameSize part + 1).sum

theorem joinedSize_intercalate {parts : List String} (h : parts ≠ []) :
    Text.nameSize (String.intercalate "/" parts) + 1 = joinedSize parts := by
  induction parts with
  | nil => exact absurd rfl h
  | cons part rest ih =>
      cases rest with
      | nil => simp [joinedSize]
      | cons next rest =>
          have hrec := ih (by simp)
          have hslash : Text.nameSize "/" = 1 := by decide
          simp only [joinedSize, List.map_cons, List.sum_cons] at hrec ⊢
          rw [String.intercalate_cons_cons, Text.nameSize_append,
            Text.nameSize_append, hslash]
          omega

theorem joinedSize_le_of_sublist {xs ys : List String} (h : xs.Sublist ys) :
    joinedSize xs ≤ joinedSize ys := by
  induction h with
  | slnil => exact Nat.le_refl _
  | cons part _ ih =>
      simp only [joinedSize, List.map_cons, List.sum_cons] at ih ⊢
      omega
  | cons_cons part _ ih =>
      simp only [joinedSize, List.map_cons, List.sum_cons] at ih ⊢
      omega

theorem size_toString (p : Path) :
    Text.nameSize p.toString =
      if p.root = .none ∧ p.parts = [] then 1
      else Text.nameSize (rootText p.root) + (joinedSize p.parts - 1) := by
  unfold toString
  by_cases hempty : p.parts = []
  · by_cases hroot : p.root = .none
    · simp only [hempty, hroot, and_self, if_true]
      rfl
    · simp [hempty, hroot, joinedSize]
  · have hjoined := joinedSize_intercalate hempty
    simp only [hempty, List.isEmpty_eq_false_iff.mpr hempty, Bool.and_false, and_false, if_false,
      Bool.false_eq_true, Text.nameSize_append]
    omega

theorem mem_intercalate_slash {parts : List String} {ch : Char} :
    ch ∈ (String.intercalate "/" parts).toList ↔
      (∃ part ∈ parts, ch ∈ part.toList) ∨ (ch = '/' ∧ 2 ≤ parts.length) := by
  induction parts with
  | nil => simp
  | cons part rest ih =>
      cases rest with
      | nil => simp
      | cons next rest =>
          rw [String.intercalate_cons_cons, String.toList_append, String.toList_append,
            List.mem_append, List.mem_append, ih]
          simp
          grind

theorem mem_toString {p : Path} {ch : Char} (h : ch ∈ p.toString.toList) :
    ch = '/' ∨ ch = '.' ∨ ∃ part ∈ p.parts, ch ∈ part.toList := by
  unfold toString at h
  split at h
  · simp at h
    exact .inr (.inl h)
  · rw [String.toList_append, List.mem_append, mem_intercalate_slash] at h
    rcases h with h | h | h
    · left
      cases hroot : p.root <;> simp_all [rootText]
    · exact .inr (.inr h)
    · exact .inl h.1

theorem mem_toString_of_mem {p : Path} {part : String} {ch : Char} (hpart : part ∈ p.parts)
    (hch : ch ∈ part.toList) : ch ∈ p.toString.toList := by
  unfold toString
  have hparts : p.parts.isEmpty = false := by
    cases hp : p.parts with
    | nil => simp [hp] at hpart
    | cons first rest => rfl
  rw [hparts, Bool.and_false]
  simp only [Bool.false_eq_true, if_false, String.toList_append, List.mem_append,
    mem_intercalate_slash]
  exact .inr (.inl ⟨part, hpart, hch⟩)

/-- A path that can be looked up: it can be encoded, has no null character and is not
over-long. -/
structure Expressible (p : Path) : Prop where
  encodable : Text.SurrogateRun.inFileName? p.toString = none
  noNull : FileTree.hasNull p = false
  short : Text.nameSize p.toString < FileTree.pathLimit

instance (p : Path) : Decidable p.Expressible :=
  decidable_of_iff (Text.SurrogateRun.inFileName? p.toString = none ∧ FileTree.hasNull p = false ∧
      Text.nameSize p.toString < FileTree.pathLimit)
    ⟨fun h => ⟨h.1, h.2.1, h.2.2⟩, fun h => ⟨h.encodable, h.noNull, h.short⟩⟩

theorem Expressible.of_sublist {p q : Path} (h : p.Expressible) (hroot : q.root = p.root)
    (hparts : q.parts.Sublist p.parts) : q.Expressible := by
  refine ⟨?_, ?_, ?_⟩
  · rw [Text.SurrogateRun.inFileName?_eq_none_iff]
    intro ch hch
    rcases mem_toString hch with rfl | rfl | ⟨part, hpart, hin⟩
    · decide
    · decide
    · have hall := (Text.SurrogateRun.inFileName?_eq_none_iff _).mp h.encodable
      exact hall ch (mem_toString_of_mem (hparts.subset hpart) hin)
  · have hnull := h.noNull
    simp only [FileTree.hasNull, List.any_eq_false] at hnull ⊢
    exact fun part hpart => hnull part (hparts.subset hpart)
  · have hshort := h.short
    have hsize := joinedSize_le_of_sublist hparts
    rw [size_toString] at hshort ⊢
    by_cases hq : q.root = .none ∧ q.parts = []
    · rw [if_pos hq]
      decide
    · rw [if_neg hq]
      by_cases hp : p.root = .none ∧ p.parts = []
      · have hempty : q.parts = [] := by
          rw [hp.2] at hparts
          exact List.sublist_nil.mp hparts
        exact absurd ⟨hroot.trans hp.1, hempty⟩ hq
      · rw [if_neg hp] at hshort
        rw [hroot]
        omega

end Path

namespace FileTree

variable {tree : FileTree} {cwd p : Path}

def fromTop (cwd p : Path) : List String :=
  if p.isAbsolute then p.parts else cwd.parts ++ p.parts

theorem locate_eq (h : p.Expressible) :
    tree.locate cwd p =
      match tree.walk [] (fromTop cwd p) with
      | .ok place => .ok place
      | .error cause => .error (.os cause p.toString) := by
  have hshort : ¬ Text.nameSize p.toString ≥ pathLimit := Nat.not_le.mpr h.short
  have htop : (if p.isAbsolute then p.parts else cwd.parts ++ p.parts) = fromTop cwd p := rfl
  unfold locate
  rw [h.encodable, htop]
  cases tree.walk [] (fromTop cwd p) with
  | ok place => simp [h.noNull, hshort]
  | error cause => simp [h.noNull, hshort]

theorem locate_ok_iff {place : List String} :
    tree.locate cwd p = .ok place ↔
      p.Expressible ∧ tree.walk [] (fromTop cwd p) = .ok place := by
  constructor
  · intro h
    have hexpressible : p.Expressible := by
      unfold locate at h
      split at h
      · cases h
      · next hencodable =>
          split at h
          · cases h
          · next hnull =>
              split at h
              · cases h
              · next hlong => exact ⟨hencodable, by simpa using hnull, Nat.not_le.mp hlong⟩
    refine ⟨hexpressible, ?_⟩
    rw [locate_eq hexpressible] at h
    cases hwalk : tree.walk [] (fromTop cwd p) with
    | ok found => simpa [hwalk] using h
    | error cause => simp [hwalk] at h
  · rintro ⟨hexpressible, hwalk⟩
    rw [locate_eq hexpressible, hwalk]

/-- Why a path cannot be looked up does not depend on the tree. -/
theorem locate_of_not_expressible {tree' : FileTree} (h : ¬ p.Expressible) :
    tree.locate cwd p = tree'.locate cwd p := by
  unfold locate
  split
  · rfl
  · next hencodable =>
      split
      · rfl
      · next hnull =>
          split
          · rfl
          · next hlong =>
              exact absurd ⟨hencodable, by simpa using hnull, Nat.not_le.mp hlong⟩ h

/-- What cannot be looked up is refused in the same way in all trees. -/
theorem stat_of_not_expressible {tree' : FileTree} (h : ¬ p.Expressible) :
    tree.stat cwd p = tree'.stat cwd p := by
  have hlocate : tree.locate cwd p = tree'.locate cwd p := locate_of_not_expressible h
  unfold stat
  rw [hlocate]
  cases hplace : tree'.locate cwd p with
  | error fault => rfl
  | ok place => exact absurd (locate_ok_iff.mp hplace).1 h

theorem stat_ok_iff {entry : Entry} :
    tree.stat cwd p = .ok entry ↔
      p.Expressible ∧ ∃ place, tree.walk [] (fromTop cwd p) = .ok place ∧
        tree.entryAt? place = some entry := by
  unfold stat
  constructor
  · intro h
    cases hlocate : tree.locate cwd p with
    | error fault => simp [hlocate] at h
    | ok place =>
        obtain ⟨hexpressible, hwalk⟩ := locate_ok_iff.mp hlocate
        refine ⟨hexpressible, place, hwalk, ?_⟩
        cases hnode : tree.entryAt? place with
        | none => simp [hlocate, hnode] at h
        | some found => simpa [hlocate, hnode] using h
  · rintro ⟨hexpressible, place, hwalk, hnode⟩
    rw [locate_ok_iff.mpr ⟨hexpressible, hwalk⟩]
    simp [hnode]

theorem isFile_iff :
    tree.isFile cwd p = .ok true ↔ ∃ bytes, tree.stat cwd p = .ok (.file bytes) := by
  unfold isFile probe
  cases hstat : tree.stat cwd p with
  | ok entry => cases entry <;> simp [bind, Except.bind, pure, Except.pure]
  | error fault =>
      cases fault with
      | os cause path => cases cause <;> simp [bind, Except.bind, pure, Except.pure]
      | _ => simp [bind, Except.bind, pure, Except.pure]

theorem isDirectory_iff :
    tree.isDirectory cwd p = .ok true ↔ tree.stat cwd p = .ok .directory := by
  unfold isDirectory probe
  cases hstat : tree.stat cwd p with
  | ok entry => cases entry <;> simp [bind, Except.bind, pure, Except.pure]
  | error fault =>
      cases fault with
      | os cause path => cases cause <;> simp [bind, Except.bind, pure, Except.pure]
      | _ => simp [bind, Except.bind, pure, Except.pure]

theorem list_ok_iff {names : List String} :
    tree.list cwd p = .ok names ↔
      p.Expressible ∧ ∃ place, tree.walk [] (fromTop cwd p) = .ok place ∧
        tree.entryAt? place = some .directory ∧ tree.namesIn place = names := by
  unfold list
  constructor
  · intro h
    cases hlocate : tree.locate cwd p with
    | error fault => simp [hlocate, bind, Except.bind] at h
    | ok place =>
        obtain ⟨hexpressible, hwalk⟩ := locate_ok_iff.mp hlocate
        refine ⟨hexpressible, place, hwalk, ?_⟩
        simp only [hlocate, bind, Except.bind] at h
        cases hnode : tree.entryAt? place with
        | none => simp [hnode, throw, throwThe, MonadExceptOf.throw] at h
        | some entry =>
            cases entry with
            | directory => simpa [hnode, pure, Except.pure] using h
            | file bytes => simp [hnode, throw, throwThe, MonadExceptOf.throw] at h
  · rintro ⟨hexpressible, place, hwalk, hnode, rfl⟩
    rw [locate_ok_iff.mpr ⟨hexpressible, hwalk⟩]
    simp [hnode, bind, Except.bind, pure, Except.pure]

theorem isDirectory_of_list {names : List String} (h : tree.list cwd p = .ok names) :
    tree.isDirectory cwd p = .ok true := by
  obtain ⟨hexpressible, place, hwalk, hnode, -⟩ := list_ok_iff.mp h
  exact isDirectory_iff.mpr (stat_ok_iff.mpr ⟨hexpressible, place, hwalk, hnode⟩)

theorem list_of_stat_error {fault : Fault} (h : tree.stat cwd p = .error fault) :
    tree.list cwd p = .error fault := by
  unfold stat at h
  unfold list
  cases hlocate : tree.locate cwd p with
  | error refusal =>
      simp only [hlocate, Except.error.injEq] at h
      rw [h]
      rfl
  | ok place =>
      simp only [hlocate] at h
      cases hentry : tree.entryAt? place with
      | none =>
          simp only [hentry, Except.error.injEq] at h
          rw [← h]
          simp [hentry, bind, Except.bind, throw, throwThe, MonadExceptOf.throw]
      | some entry => simp [hentry] at h

theorem list_of_stat_ok {entry : Entry} (h : tree.stat cwd p = .ok entry) :
    (∃ bytes, entry = .file bytes ∧ tree.list cwd p = .error (.os .notADirectory p.toString)) ∨
      entry = .directory ∧ ∃ names, tree.list cwd p = .ok names := by
  obtain ⟨hexpressible, place, hwalk, hentry⟩ := stat_ok_iff.mp h
  cases entry with
  | file bytes =>
      refine .inl ⟨bytes, rfl, ?_⟩
      unfold list
      rw [locate_ok_iff.mpr ⟨hexpressible, hwalk⟩]
      simp [hentry, bind, Except.bind, throw, throwThe, MonadExceptOf.throw]
  | directory =>
      exact .inr ⟨rfl, _, list_ok_iff.mpr ⟨hexpressible, place, hwalk, hentry, rfl⟩⟩

/-- What stands below a directory shows that the directory is there. -/
theorem stat_directory_of_below {part : String} {rest : List String} {entry : Entry}
    (h : tree.stat cwd { p with parts := p.parts ++ part :: rest } = .ok entry) :
    tree.stat cwd p = .ok .directory := by
  obtain ⟨hexpressible, place, hwalk, -⟩ := stat_ok_iff.mp h
  have hsplit : fromTop cwd { p with parts := p.parts ++ part :: rest } =
      fromTop cwd p ++ part :: rest := by
    unfold fromTop Path.isAbsolute
    split <;> simp
  rw [hsplit] at hwalk
  obtain ⟨middle, hmiddle, hbelow⟩ := walk_append_ok hwalk
  obtain ⟨_, hnext, -⟩ := walk_cons_ok hbelow
  refine stat_ok_iff.mpr ⟨?_, middle, hmiddle, directory_of_enter hnext⟩
  exact hexpressible.of_sublist rfl (List.sublist_append_left _ _)

end FileTree

/-! ## Normal forms -/

namespace Path

theorem foldl_pushPart_sublist (absolute : Bool) (parts stack done : List String)
    (h : stack.reverse.Sublist done) :
    (parts.foldl (pushPart absolute) stack).reverse.Sublist (done ++ parts) := by
  induction parts generalizing stack done with
  | nil => simpa using h
  | cons part rest ih =>
      have hkeep : (part :: stack).reverse.Sublist (done ++ [part]) := by
        rw [List.reverse_cons]
        exact h.append (List.Sublist.refl _)
      have hdrop : ∀ {shorter : List String}, shorter.Sublist done →
          shorter.Sublist (done ++ [part]) :=
        fun hs => hs.trans (List.sublist_append_left _ _)
      have hpush : (pushPart absolute stack part).reverse.Sublist (done ++ [part]) := by
        unfold pushPart
        split
        · next hdots =>
            subst hdots
            cases stack with
            | nil => cases absolute <;> simp
            | cons top rest =>
                simp only
                split
                · exact hkeep
                · refine hdrop (List.Sublist.trans ?_ h)
                  rw [List.reverse_cons]
                  exact List.sublist_append_left _ _
        · exact hkeep
      simpa using ih _ _ hpush

theorem foldl_pushPart_of_not_mem {absolute : Bool} {parts : List String} (h : ".." ∉ parts)
    (stack : List String) :
    parts.foldl (pushPart absolute) stack = parts.reverse ++ stack := by
  induction parts generalizing stack with
  | nil => rfl
  | cons part rest ih =>
      have hpart : part ≠ ".." := fun heq => h (by simp [heq])
      have hrest : ".." ∉ rest := fun hmem => h (List.mem_cons_of_mem _ hmem)
      have hpush : pushPart absolute stack part = part :: stack := by simp [pushPart, hpart]
      rw [List.foldl_cons, hpush, ih hrest]
      simp

theorem normalize_sublist (p : Path) : p.normalize.parts.Sublist p.parts := by
  have h := foldl_pushPart_sublist p.isAbsolute p.parts [] [] (List.Sublist.refl _)
  simpa [normalize] using h

end Path

namespace FileTree

variable {tree : FileTree} {cwd p : Path}

/-- Whether a path meets a symbolic link and then, after it, a `..`. -/
def LeavesLink (tree : FileTree) (cwd p : Path) : Prop :=
  ∃ before part between after reached, p.parts = before ++ part :: (between ++ ".." :: after) ∧
    part ≠ ".." ∧ tree.walk [] (fromTop cwd { p with parts := before }) = .ok reached ∧
    (tree.link? (reached ++ [part])).isSome

/-- The components of a path up to the last `..`, and those after it. -/
theorem exists_split_at_last_up (parts : List String) :
    ∃ front back, parts = front ++ back ∧ ".." ∉ back ∧
      ∀ {before part after}, front = before ++ part :: after → part ≠ ".." →
        ∃ between rest, after = between ++ ".." :: rest := by
  induction parts using List.reverseRecOn with
  | nil => exact ⟨[], [], rfl, by simp, fun heq => by simp at heq⟩
  | append_singleton parts last ih =>
      by_cases hlast : last = ".."
      · refine ⟨parts ++ [last], [], by simp, by simp, ?_⟩
        intro before part after heq hup
        rcases List.eq_nil_or_concat after with rfl | ⟨between, top, rfl⟩
        · obtain ⟨-, htop⟩ := List.append_inj' heq rfl
          exact absurd ((List.singleton_inj.mp htop).symm.trans hlast) hup
        · rw [List.concat_eq_append, ← List.cons_append, ← List.append_assoc] at heq
          obtain ⟨-, htop⟩ := List.append_inj' heq rfl
          rw [List.singleton_inj.mp htop] at hlast
          exact ⟨between, [], by rw [List.concat_eq_append, hlast]⟩
      · obtain ⟨front, back, rfl, hback, hfront⟩ := ih
        refine ⟨front, back ++ [last], by simp, ?_, hfront⟩
        simp [hback, Ne.symm hlast]

/-- From the directory where a path starts, its normal form leads to the same place. -/
theorem walk_normal_parts {absolute : Bool} {base place parts : List String}
    (hbase : absolute = true → base = []) (h : tree.walk base parts = .ok place)
    (hlinks : ∀ {before part between after reached},
      parts = before ++ part :: (between ++ ".." :: after) → part ≠ ".." →
        tree.walk base before = .ok reached → tree.link? (reached ++ [part]) = none) :
    tree.walk base (parts.foldl (Path.pushPart absolute) []).reverse = .ok place := by
  obtain ⟨front, back, rfl, hback, hfront⟩ := exists_split_at_last_up parts
  obtain ⟨middle, hmiddle, hrest⟩ := walk_append_ok h
  have hstraight : tree.IsStraight base front := by
    refine ⟨fun {before part after reached} heq hup hreached => ?_⟩
    obtain ⟨between, rest, rfl⟩ := hfront heq hup
    have hparts : front ++ back = before ++ part :: (between ++ ".." :: (rest ++ back)) := by
      simp [heq]
    exact hlinks hparts hup hreached
  have hempty : tree.IsStraight base ([] : List String).reverse := .nil tree base
  have hfrontWalk := walk_foldl_pushPart hbase rfl hempty hstraight hmiddle
  rw [List.foldl_append, Path.foldl_pushPart_of_not_mem hback, List.reverse_append,
    List.reverse_reverse, walk_append_of_ok hfrontWalk]
  exact hrest

theorem walk_normalize {place : List String}
    (h : tree.walk [] (fromTop cwd p) = .ok place) (hlinks : ¬ tree.LeavesLink cwd p) :
    tree.walk [] (fromTop cwd p.normalize) = .ok place := by
  have hnone : ∀ {before part between after reached},
      p.parts = before ++ part :: (between ++ ".." :: after) → part ≠ ".." →
        tree.walk [] (fromTop cwd { p with parts := before }) = .ok reached →
          tree.link? (reached ++ [part]) = none := by
    intro before part between after reached heq hup hreached
    by_contra hlink
    exact hlinks ⟨before, part, between, after, reached, heq, hup, hreached,
      Option.isSome_iff_ne_none.mpr hlink⟩
  unfold fromTop Path.isAbsolute at h hnone ⊢
  rw [Path.normalize_root]
  split
  · next habs =>
      simp only [if_pos habs] at h hnone
      exact walk_normal_parts (fun _ => rfl) h hnone
  · next hrel =>
      simp only [if_neg hrel] at h hnone
      obtain ⟨base, hbase, hrest⟩ := walk_append_ok h
      rw [walk_append_of_ok hbase]
      refine walk_normal_parts (fun habs => absurd habs hrel) hrest ?_
      intro before part between after reached heq hup hreached
      refine hnone heq hup ?_
      rw [walk_append_of_ok hbase]
      exact hreached

/-- A path and its normal form lead to the same entry, unless the path leaves a link. -/
theorem stat_normalize {entry : Entry} (h : tree.stat cwd p = .ok entry)
    (hlinks : ¬ tree.LeavesLink cwd p) : tree.stat cwd p.normalize = .ok entry := by
  obtain ⟨hexpressible, place, hwalk, hentry⟩ := stat_ok_iff.mp h
  exact stat_ok_iff.mpr ⟨hexpressible.of_sublist rfl p.normalize_sublist, place,
    walk_normalize hwalk hlinks, hentry⟩

theorem isFile_normalize (h : tree.isFile cwd p = .ok true) (hlinks : ¬ tree.LeavesLink cwd p) :
    tree.isFile cwd p.normalize = .ok true := by
  obtain ⟨bytes, hstat⟩ := isFile_iff.mp h
  exact isFile_iff.mpr ⟨bytes, stat_normalize hstat hlinks⟩

/-! ## Trees without links -/

def IsLinkFree (tree : FileTree) : Prop := ∀ node ∈ tree.nodes.entries, node.2.link? = none

instance (tree : FileTree) : Decidable tree.IsLinkFree :=
  inferInstanceAs (Decidable (∀ node ∈ tree.nodes.entries, node.2.link? = none))

theorem IsLinkFree.link?_eq_none (h : tree.IsLinkFree) (place : List String) :
    tree.link? place = none := by
  unfold link?
  cases hnode : tree.nodes.get? place with
  | none => rfl
  | some node => exact h _ (OrderedMap.mem_of_get? hnode)

theorem IsLinkFree.not_leavesLink (h : tree.IsLinkFree) : ¬ tree.LeavesLink cwd p := by
  rintro ⟨before, part, between, after, reached, -, -, -, hlink⟩
  rw [h.link?_eq_none] at hlink
  cases hlink

end FileTree

end AsmNavigator
