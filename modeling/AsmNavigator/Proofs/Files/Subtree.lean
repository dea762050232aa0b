import AsmNavigator.Proofs.Files.Sound

/-! # Trees that agree below a directory

Two trees agree below a path if they show the same entries and the same listings at the
path and below it. Once the path is a directory in one of them, everything that is looked
up below it has the same outcome in both, refusals included, whatever else the trees hold.
-/

namespace AsmNavigator

namespace FileTree

theorem fromTop_below (cwd p : Path) (parts : List String) :
    fromTop cwd (p.below parts) = fromTop cwd p ++ parts := by
  show (if p.isAbsolute then p.parts ++ parts else cwd.parts ++ (p.parts ++ parts)) = _
  unfold fromTop
  split <;> simp

def nodesBelow (tree : FileTree) (place : List String) : List (List String × Node) :=
  tree.nodes.entries.filter fun node => place.isPrefixOf node.1

theorem entryAt?_of_nodesBelow (tree : FileTree) (place parts : List String) :
    tree.entryAt? (place ++ parts) =
      if (place ++ parts).isEmpty then some .directory
      else (OrderedMap.find? (place ++ parts) (tree.nodesBelow place)).bind Node.held? := by
  have hfind := OrderedMap.find?_filter_key place.isPrefixOf (place ++ parts) tree.nodes.entries
  have hprefix : place.isPrefixOf (place ++ parts) = true :=
    List.isPrefixOf_iff_prefix.mpr (List.prefix_append place parts)
  rw [if_pos hprefix] at hfind
  unfold nodesBelow
  rw [hfind]
  rfl

theorem namesIn_of_nodesBelow (tree : FileTree) (place parts : List String) :
    tree.namesIn (place ++ parts) = (tree.nodesBelow place).filterMap fun node =>
      if node.1.dropLast = place ++ parts then node.1.getLast? else none := by
  unfold namesIn nodesBelow
  rw [List.filterMap_filter]
  refine List.filterMap_congr fun node _ => ?_
  by_cases hparent : node.1.dropLast = place ++ parts
  · have hprefix : place <+: node.1 :=
      (hparent ▸ List.prefix_append place parts).trans (List.dropLast_prefix node.1)
    rw [if_pos (List.isPrefixOf_iff_prefix.mpr hprefix)]
  · simp [hparent]

/-- The same entries and the same listings, at a path and below it. -/
structure AgreeBelow (tree other : FileTree) (cwd top : Path) : Prop where
  stat : ∀ {parts}, ".." ∉ parts → ∀ entry,
    tree.stat cwd (top.below parts) = .ok entry ↔ other.stat cwd (top.below parts) = .ok entry
  list : ∀ {parts}, ".." ∉ parts → ∀ names,
    tree.list cwd (top.below parts) = .ok names ↔ other.list cwd (top.below parts) = .ok names

/-! ## What components lead to -/

/-- What is found by following components from a place. -/
def found (tree : FileTree) (place parts : List String) : Except OsCause (Option Entry) :=
  (tree.walk place parts).map tree.entryAt?

section

variable {tree : FileTree} {cwd top : Path} {place parts reached : List String} {part : String}

theorem exists_entry_of_reached {q : List String} (h : tree.reached? place = some q) :
    ∃ entry, tree.entryAt? q = some entry := by
  unfold reached? at h
  split at h
  · next entry hentry =>
      cases h
      exact ⟨entry, hentry⟩
  · exact Option.isSome_iff_exists.mp (Option.filter_eq_some_iff.mp h).2

theorem found_concat_of_error {cause : OsCause} (h : tree.found place parts = .error cause) :
    tree.found place (parts ++ [part]) = .error cause := by
  unfold found at h ⊢
  rw [walk_append]
  cases hwalk : tree.walk place parts with
  | error refusal =>
      rw [hwalk] at h
      exact h
  | ok reached =>
      rw [hwalk] at h
      cases h

theorem found_concat_of_ok (hwalk : tree.walk place parts = .ok reached) :
    tree.found place (parts ++ [part]) = (tree.enter reached part).map tree.entryAt? := by
  unfold found
  rw [walk_append_of_ok hwalk, walk_single]

/-- A name is found in a directory, or there is nothing under it. -/
theorem found_in_directory (hup : part ≠ "..") (hsize : Text.nameSize part ≤ nameLimit)
    (hdir : tree.found place parts = .ok (some .directory)) :
    tree.found place (parts ++ [part]) = .error .notFound ∨
      ∃ entry, tree.found place (parts ++ [part]) = .ok (some entry) := by
  unfold found at hdir
  cases hwalk : tree.walk place parts with
  | error cause => simp [hwalk, Except.map] at hdir
  | ok reached =>
      simp only [hwalk, Except.map, Except.ok.injEq] at hdir
      rw [found_concat_of_ok hwalk]
      unfold enter
      rw [hdir]
      simp only [Option.any_some, Entry.isDirectory, Bool.not_true, Bool.false_eq_true, if_false,
        if_neg hup, if_neg (Nat.not_lt.mpr hsize)]
      cases hreached : tree.reached? (reached ++ [part]) with
      | none => exact .inl rfl
      | some next =>
          obtain ⟨entry, hentry⟩ := exists_entry_of_reached hreached
          exact .inr ⟨entry, congrArg Except.ok hentry⟩

/-- A name that is too long is refused in every directory, and every name below a file. -/
theorem found_concat_refused {entry : Entry} (hup : part ≠ "..")
    (hentry : tree.found place parts = .ok (some entry))
    (h : entry = .directory → nameLimit < Text.nameSize part) :
    tree.found place (parts ++ [part]) =
      .error (if entry.isDirectory then .nameTooLong else .notADirectory) := by
  unfold found at hentry
  cases hwalk : tree.walk place parts with
  | error cause => simp [hwalk, Except.map] at hentry
  | ok reached =>
      simp only [hwalk, Except.map, Except.ok.injEq] at hentry
      rw [found_concat_of_ok hwalk]
      unfold enter
      rw [hentry]
      cases entry with
      | file bytes => rfl
      | directory => simp [Entry.isDirectory, hup, h rfl, Except.map]

/-- Where two walks have found the same, a further component leads to the same if both trees
show the same entry behind it, if any. -/
theorem found_concat_eq {other : FileTree} {place' : List String} {entry : Entry}
    (hup : part ≠ "..") (hfound : tree.found place parts = .ok (some entry))
    (hfound' : other.found place' parts = .ok (some entry))
    (hsame : ∀ next, tree.found place (parts ++ [part]) = .ok (some next) ↔
      other.found place' (parts ++ [part]) = .ok (some next)) :
    tree.found place (parts ++ [part]) = other.found place' (parts ++ [part]) ∧
      ((∃ cause, tree.found place (parts ++ [part]) = .error cause) ∨
        ∃ next, tree.found place (parts ++ [part]) = .ok (some next)) := by
  by_cases hopen : entry = .directory ∧ Text.nameSize part ≤ nameLimit
  · obtain ⟨rfl, hsize⟩ := hopen
    rcases found_in_directory hup hsize hfound with hnone | ⟨next, hnext⟩
    · rcases found_in_directory hup hsize hfound' with hnone' | ⟨next', hnext'⟩
      · rw [hnone, hnone']
        exact ⟨rfl, .inl ⟨_, rfl⟩⟩
      · rw [(hsame next').mpr hnext'] at hnone
        cases hnone
    · rw [hnext, (hsame next).mp hnext]
      exact ⟨rfl, .inr ⟨next, rfl⟩⟩
  · have hclosed : entry = .directory → nameLimit < Text.nameSize part := fun hdirectory =>
      Nat.not_le.mp fun hsize => hopen ⟨hdirectory, hsize⟩
    rw [found_concat_refused hup hfound hclosed, found_concat_refused hup hfound' hclosed]
    exact ⟨rfl, .inl ⟨_, rfl⟩⟩

theorem stat_below_eq_found (hplace : tree.walk [] (fromTop cwd top) = .ok place)
    (hexpressible : (top.below parts).Expressible) :
    tree.stat cwd (top.below parts) =
      match tree.found place parts with
      | .error cause => .error (.os cause (top.below parts).toString)
      | .ok none => .error (.os .notFound (top.below parts).toString)
      | .ok (some entry) => .ok entry := by
  unfold stat found
  rw [locate_eq hexpressible, fromTop_below, walk_append_of_ok hplace]
  cases tree.walk place parts with
  | error cause => rfl
  | ok reached => cases hentry : tree.entryAt? reached <;> simp [Except.map, hentry]

theorem stat_below_ok_iff (hplace : tree.walk [] (fromTop cwd top) = .ok place)
    (hexpressible : (top.below parts).Expressible) {entry : Entry} :
    tree.stat cwd (top.below parts) = .ok entry ↔ tree.found place parts = .ok (some entry) := by
  rw [stat_below_eq_found hplace hexpressible]
  rcases tree.found place parts with _ | _ | _ <;> simp

end

namespace AgreeBelow

variable {tree other : FileTree} {cwd top : Path}

theorem stat_top (h : AgreeBelow tree other cwd top) {entry : Entry} :
    tree.stat cwd top = .ok entry ↔ other.stat cwd top = .ok entry := by
  have hstat := h.stat (List.not_mem_nil (a := "..")) entry
  rwa [Path.below_nil] at hstat

/-- Plain trees that hold the same below a direct path, in the same order. -/
theorem of_nodesBelow (hplain : tree.IsPlain) (hplain' : other.IsPlain) (htop : top.IsDirect)
    (h : tree.nodesBelow top.parts = other.nodesBelow top.parts) :
    AgreeBelow tree other cwd top := by
  have hentry : ∀ parts,
      tree.entryAt? (top.parts ++ parts) = other.entryAt? (top.parts ++ parts) := by
    intro parts
    rw [entryAt?_of_nodesBelow, entryAt?_of_nodesBelow, h]
  have hnames : ∀ parts,
      tree.namesIn (top.parts ++ parts) = other.namesIn (top.parts ++ parts) := by
    intro parts
    rw [namesIn_of_nodesBelow, namesIn_of_nodesBelow, h]
  constructor
  · intro parts hparts entry
    rw [hplain.stat_ok_iff (htop.below hparts), hplain'.stat_ok_iff (htop.below hparts),
      Path.below_parts, hentry]
  · intro parts hparts names
    rw [hplain.list_ok_iff (htop.below hparts), hplain'.list_ok_iff (htop.below hparts),
      Path.below_parts, hentry, hnames]

/-! ## Looking up below a directory -/

variable (h : AgreeBelow tree other cwd top) (hdir : tree.stat cwd top = .ok .directory)
include h hdir

/-- Component by component, both trees show the same or refuse for the same reason. -/
theorem found_eq {place place' parts : List String}
    (hplace : tree.walk [] (fromTop cwd top) = .ok place)
    (hplace' : other.walk [] (fromTop cwd top) = .ok place')
    (hparts : ".." ∉ parts) (hexpressible : (top.below parts).Expressible) :
    tree.found place parts = other.found place' parts ∧
      ((∃ cause, tree.found place parts = .error cause) ∨
        ∃ entry, tree.found place parts = .ok (some entry)) := by
  induction parts using List.reverseRecOn with
  | nil =>
      have htop : ∀ {files : FileTree} {start}, files.walk [] (fromTop cwd top) = .ok start →
          files.stat cwd top = .ok .directory → files.found start [] = .ok (some .directory) := by
        intro files start hstart hstat
        rw [← Path.below_nil top] at hstat
        exact (stat_below_ok_iff hstart hexpressible).mp hstat
      rw [htop hplace hdir, htop hplace' (h.stat_top.mp hdir)]
      exact ⟨rfl, .inr ⟨_, rfl⟩⟩
  | append_singleton parts part ih =>
      have hup : part ≠ ".." := fun heq => hparts (by simp [heq])
      have hbefore : ".." ∉ parts := fun hmem => hparts (by simp [hmem])
      have hshorter : (top.below parts).Expressible := by
        refine hexpressible.of_sublist rfl ?_
        exact (List.sublist_append_left parts [part]).append_left top.parts
      have hsame : ∀ entry, tree.found place (parts ++ [part]) = .ok (some entry) ↔
          other.found place' (parts ++ [part]) = .ok (some entry) := by
        intro entry
        rw [← stat_below_ok_iff hplace hexpressible, ← stat_below_ok_iff hplace' hexpressible]
        exact h.stat hparts entry
      obtain ⟨heq, ⟨cause, hfound⟩ | ⟨entry, hfound⟩⟩ := ih hbefore hshorter
      · have hfound' := heq.symm.trans hfound
        rw [found_concat_of_error hfound, found_concat_of_error hfound']
        exact ⟨rfl, .inl ⟨cause, rfl⟩⟩
      · exact found_concat_eq hup hfound (heq.symm.trans hfound) hsame

variable {parts : List String} (hparts : ".." ∉ parts)
include hparts

theorem stat_eq : tree.stat cwd (top.below parts) = other.stat cwd (top.below parts) := by
  by_cases hexpressible : (top.below parts).Expressible
  · obtain ⟨-, place, hplace, -⟩ := stat_ok_iff.mp hdir
    obtain ⟨-, place', hplace', -⟩ := stat_ok_iff.mp (h.stat_top.mp hdir)
    rw [stat_below_eq_found hplace hexpressible, stat_below_eq_found hplace' hexpressible,
      (h.found_eq hdir hplace hplace' hparts hexpressible).1]
  · exact stat_of_not_expressible hexpressible

theorem isFile_eq : tree.isFile cwd (top.below parts) = other.isFile cwd (top.below parts) := by
  unfold isFile probe
  rw [h.stat_eq hdir hparts]

theorem isDirectory_eq :
    tree.isDirectory cwd (top.below parts) = other.isDirectory cwd (top.below parts) := by
  unfold isDirectory probe
  rw [h.stat_eq hdir hparts]

theorem list_eq : tree.list cwd (top.below parts) = other.list cwd (top.below parts) := by
  have hsame := h.stat_eq hdir hparts
  cases hstat : tree.stat cwd (top.below parts) with
  | error fault => rw [list_of_stat_error hstat, list_of_stat_error (hsame ▸ hstat)]
  | ok entry =>
      rcases list_of_stat_ok hstat with ⟨bytes, rfl, hlist⟩ | ⟨rfl, names, hlist⟩
      · rcases list_of_stat_ok (hsame ▸ hstat) with ⟨_, -, hlist'⟩ | ⟨heq, -⟩
        · rw [hlist, hlist']
        · cases heq
      · rw [hlist, (h.list hparts names).mp hlist]

end AgreeBelow

end FileTree

end AsmNavigator
