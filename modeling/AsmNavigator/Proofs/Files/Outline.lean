import AsmNavigator.Proofs.Files.Subtree

/-! # Trees with the same outline

Which files, directories and links there are is the outline of a tree. Walks and questions
after files and directories see nothing else, and a listing gives the names in some order.
The contents of a file show only when it is read, be it behind a link.
-/

namespace AsmNavigator

/-- What a node is, the contents of a file left aside. -/
inductive Node.Kind where
  | file
  | directory
  | link (target : List String)
  deriving DecidableEq

def Node.kind : Node → Node.Kind
  | .file _ => .file
  | .directory => .directory
  | .link target => .link target

namespace FileTree

/-- The same files, directories and links, and the same contents of what is read under
certain names. -/
structure SameOutline (named : String → Prop) (tree other : FileTree) : Prop where
  kinds : ∀ place, (other.nodes.get? place).map Node.kind = (tree.nodes.get? place).map Node.kind
  contents : ∀ {place name}, place.getLast? = some name → named name →
    other.contentsAt place = tree.contentsAt place

theorem contentsAt_of_unlisted {tree : FileTree} {place : List String} (hne : place ≠ [])
    (h : tree.nodes.get? place = none) : tree.contentsAt place = none := by
  have hentry : tree.entryAt? place = none := by rw [entryAt?_of_ne_nil hne, h, Option.bind_none]
  simp [contentsAt, reached?, hentry, link?, h]

/-- Outlines are compared at the places that either tree lists. -/
theorem sameOutline_iff {named : String → Prop} {tree other : FileTree} :
    tree.SameOutline named other ↔ ∀ place ∈ tree.nodes.keys ++ other.nodes.keys,
      (other.nodes.get? place).map Node.kind = (tree.nodes.get? place).map Node.kind ∧
        ∀ name ∈ place.getLast?, named name →
          other.contentsAt place = tree.contentsAt place := by
  constructor
  · intro h place _
    exact ⟨h.kinds place, fun name hlast => h.contents hlast⟩
  · intro h
    have hunlisted : ∀ place, place ∉ tree.nodes.keys ++ other.nodes.keys →
        tree.nodes.get? place = none ∧ other.nodes.get? place = none := by
      intro place hplace
      rw [List.mem_append, not_or, OrderedMap.mem_keys_iff, OrderedMap.mem_keys_iff] at hplace
      exact ⟨Option.not_isSome_iff_eq_none.mp hplace.1, Option.not_isSome_iff_eq_none.mp hplace.2⟩
    refine ⟨fun place => ?_, fun {place name} hlast hnamed => ?_⟩
    · by_cases hplace : place ∈ tree.nodes.keys ++ other.nodes.keys
      · exact (h place hplace).1
      · rw [(hunlisted place hplace).1, (hunlisted place hplace).2]
    · by_cases hplace : place ∈ tree.nodes.keys ++ other.nodes.keys
      · exact (h place hplace).2 name hlast hnamed
      · have hne : place ≠ [] := by
          rintro rfl
          cases hlast
        rw [contentsAt_of_unlisted hne (hunlisted place hplace).1,
          contentsAt_of_unlisted hne (hunlisted place hplace).2]

instance (named : String → Prop) [DecidablePred named] (tree other : FileTree) :
    Decidable (tree.SameOutline named other) :=
  -- Libraries bring a second instance, so it is said which one compares contents.
  letI : DecidableEq ByteArray := ByteArray.instDecidableEq
  decidable_of_iff' _ sameOutline_iff

namespace SameOutline

variable {named : String → Prop} {tree other : FileTree} {cwd p : Path}
  (h : tree.SameOutline named other)
include h

/-- What stands at a place: nothing or a link, a directory, or a file in both trees. -/
theorem entryAt?_cases (place : List String) :
    (tree.entryAt? place = none ∧ other.entryAt? place = none) ∨
      (tree.entryAt? place = some .directory ∧ other.entryAt? place = some .directory) ∨
      ∃ bytes bytes', tree.entryAt? place = some (.file bytes) ∧
        other.entryAt? place = some (.file bytes') := by
  by_cases hne : place = []
  · simp [hne]
  · rw [entryAt?_of_ne_nil hne, entryAt?_of_ne_nil hne]
    have hkinds := h.kinds place
    rcases hnode : tree.nodes.get? place with _ | (bytes | _) | target <;>
      rcases hnode' : other.nodes.get? place with _ | (bytes' | _) | target' <;>
      simp_all [Node.kind]

theorem any_isDirectory (place : List String) :
    (other.entryAt? place).any Entry.isDirectory = (tree.entryAt? place).any Entry.isDirectory := by
  rcases h.entryAt?_cases place with ⟨hnone, hnone'⟩ | ⟨hdir, hdir'⟩ | ⟨_, _, hfile, hfile'⟩
  · rw [hnone, hnone']
  · rw [hdir, hdir']
  · rw [hfile, hfile']
    rfl

theorem isSome_entryAt? (place : List String) :
    (other.entryAt? place).isSome = (tree.entryAt? place).isSome := by
  rcases h.entryAt?_cases place with ⟨hnone, hnone'⟩ | ⟨hdir, hdir'⟩ | ⟨_, _, hfile, hfile'⟩
  · rw [hnone, hnone']
  · rw [hdir, hdir']
  · rw [hfile, hfile']
    rfl

theorem link?_eq (place : List String) : other.link? place = tree.link? place := by
  unfold link?
  have hkinds := h.kinds place
  rcases hnode : tree.nodes.get? place with _ | (bytes | _) | target <;>
    rcases hnode' : other.nodes.get? place with _ | (bytes' | _) | target' <;>
    simp_all [Node.kind]

theorem reached?_eq (place : List String) : other.reached? place = tree.reached? place := by
  unfold reached?
  rw [h.link?_eq]
  simp only [h.isSome_entryAt?]
  rcases h.entryAt?_cases place with ⟨hnone, hnone'⟩ | ⟨hdir, hdir'⟩ | ⟨_, _, hfile, hfile'⟩
  · rw [hnone, hnone']
  · rw [hdir, hdir']
  · rw [hfile, hfile']

theorem walk_eq (place parts : List String) : other.walk place parts = tree.walk place parts := by
  induction parts generalizing place with
  | nil => rfl
  | cons part rest ih =>
      have henter : other.enter place part = tree.enter place part := by
        unfold enter
        rw [h.any_isDirectory, h.reached?_eq]
      rw [walk_cons, walk_cons, henter]
      exact congrArg (tree.enter place part >>= ·) (funext ih)

theorem locate_eq : other.locate cwd p = tree.locate cwd p := by
  unfold locate
  simp only [h.walk_eq]

theorem entryAt?_directory {place : List String} (hnode : tree.entryAt? place = some .directory) :
    other.entryAt? place = some .directory := by
  rcases h.entryAt?_cases place with ⟨hnone, -⟩ | ⟨-, hdir⟩ | ⟨_, _, hfile, -⟩
  · simp [hnone] at hnode
  · exact hdir
  · simp [hfile] at hnode

/-- A path is refused in the same way in both trees, or leads to two directories or to two
files. -/
theorem stat_cases (cwd p : Path) :
    (∃ fault, tree.stat cwd p = .error fault ∧ other.stat cwd p = .error fault) ∨
      (tree.stat cwd p = .ok .directory ∧ other.stat cwd p = .ok .directory) ∨
      ∃ bytes bytes', tree.stat cwd p = .ok (.file bytes) ∧
        other.stat cwd p = .ok (.file bytes') := by
  unfold stat
  rw [h.locate_eq]
  cases tree.locate cwd p with
  | error fault => exact .inl ⟨fault, rfl, rfl⟩
  | ok place =>
      simp only
      rcases h.entryAt?_cases place with ⟨hnone, hnone'⟩ | ⟨hdir, hdir'⟩ | ⟨_, _, hfile, hfile'⟩
      · exact .inl ⟨.os .notFound p.toString, by rw [hnone], by rw [hnone']⟩
      · exact .inr (.inl ⟨by rw [hdir], by rw [hdir']⟩)
      · exact .inr (.inr ⟨_, _, by rw [hfile], by rw [hfile']⟩)

theorem isFile_eq : other.isFile cwd p = tree.isFile cwd p := by
  unfold isFile probe
  rcases h.stat_cases cwd p with
    ⟨_, hstat, hstat'⟩ | ⟨hstat, hstat'⟩ | ⟨_, _, hstat, hstat'⟩
  all_goals simp only [hstat, hstat', bind, Except.bind]

theorem isDirectory_eq : other.isDirectory cwd p = tree.isDirectory cwd p := by
  unfold isDirectory probe
  rcases h.stat_cases cwd p with
    ⟨_, hstat, hstat'⟩ | ⟨hstat, hstat'⟩ | ⟨_, _, hstat, hstat'⟩
  all_goals simp only [hstat, hstat', bind, Except.bind]

/-! ## Listings -/

theorem namesIn_perm (htree : tree.Sound) (hother : other.Sound) (place : List String) :
    (other.namesIn place).Perm (tree.namesIn place) := by
  rw [List.perm_ext_iff_of_nodup (hother.nodup_namesIn place) (htree.nodup_namesIn place)]
  intro name
  rw [mem_namesIn, mem_namesIn, OrderedMap.mem_keys_iff, OrderedMap.mem_keys_iff,
    ← Option.isSome_map, h.kinds, Option.isSome_map]

/-- A directory that is listed in one tree is listed in the other one, in some order. -/
theorem list_ok (htree : tree.Sound) (hother : other.Sound) {names : List String}
    (hlist : tree.list cwd p = .ok names) :
    ∃ names', other.list cwd p = .ok names' ∧ names'.Perm names := by
  obtain ⟨hexpressible, place, hwalk, hnode, rfl⟩ := list_ok_iff.mp hlist
  refine ⟨other.namesIn place, ?_, h.namesIn_perm htree hother place⟩
  refine list_ok_iff.mpr ⟨hexpressible, place, ?_, h.entryAt?_directory hnode, rfl⟩
  rw [h.walk_eq]
  exact hwalk

theorem list_error {fault : Fault} (hlist : tree.list cwd p = .error fault) :
    other.list cwd p = .error fault := by
  rcases h.stat_cases cwd p with
    ⟨refusal, hstat, hstat'⟩ | ⟨hstat, -⟩ | ⟨bytes, bytes', hstat, hstat'⟩
  · rw [list_of_stat_error hstat] at hlist
    rw [list_of_stat_error hstat']
    exact hlist
  · rcases list_of_stat_ok hstat with ⟨_, heq, -⟩ | ⟨-, names, hnames⟩
    · cases heq
    · rw [hnames] at hlist
      cases hlist
  · rcases list_of_stat_ok hstat with ⟨_, -, hrefused⟩ | ⟨heq, -⟩
    · rcases list_of_stat_ok hstat' with ⟨_, -, hrefused'⟩ | ⟨heq', -⟩
      · rw [hrefused'] 
        rw [hrefused] at hlist
        exact hlist
      · cases heq'
    · cases heq

/-- Trees that keep their entries in the same order list them in the same order. -/
theorem list_eq_of_keys (hkeys : other.nodes.keys = tree.nodes.keys) :
    other.list cwd p = tree.list cwd p := by
  have hnames : ∀ place, other.namesIn place = tree.namesIn place := by
    intro place
    rw [namesIn_eq, namesIn_eq, hkeys]
  cases hlist : tree.list cwd p with
  | error fault => exact h.list_error hlist
  | ok names =>
      obtain ⟨hexpressible, place, hwalk, hnode, rfl⟩ := list_ok_iff.mp hlist
      refine list_ok_iff.mpr ⟨hexpressible, place, ?_, h.entryAt?_directory hnode, hnames place⟩
      rw [h.walk_eq]
      exact hwalk

/-! ## Reading -/

/-- What is reached under one of the names is the same in both trees. -/
theorem entryAt?_eq {place reached : List String} {name : String}
    (hlast : place.getLast? = some name) (hnamed : named name)
    (hreached : tree.reached? place = some reached) :
    other.entryAt? reached = tree.entryAt? reached := by
  have hcontents := h.contents hlast hnamed
  rw [contentsAt, contentsAt, h.reached?_eq, hreached, Option.bind_some,
    Option.bind_some] at hcontents
  unfold fileAt at hcontents
  rcases h.entryAt?_cases reached with ⟨hnone, hnone'⟩ | ⟨hdir, hdir'⟩ | ⟨_, _, hfile, hfile'⟩
  · rw [hnone, hnone']
  · rw [hdir, hdir']
  · rw [hfile, hfile'] at hcontents ⊢
    rw [Option.some.inj hcontents]

/-- A file with one of the names has the same text in both trees. -/
theorem readText_eq {name : String} (hname : IsPlainName name) (hnamed : named name)
    (directory : Path) :
    other.readText cwd (directory / name) = tree.readText cwd (directory / name) := by
  rw [Path.div_plain _ hname]
  have hstat : other.stat cwd (directory.below [name]) =
      tree.stat cwd (directory.below [name]) := by
    unfold stat
    rw [h.locate_eq]
    cases hlocate : tree.locate cwd (directory.below [name]) with
    | error fault => rfl
    | ok place =>
        obtain ⟨-, hwalk⟩ := locate_ok_iff.mp hlocate
        rw [fromTop_below] at hwalk
        obtain ⟨above, hreached⟩ := exists_reached_of_walk_concat hname.notUp hwalk
        simp only [h.entryAt?_eq (by simp) hnamed hreached]
  unfold readText readBytes
  rw [hstat]

end SameOutline

end FileTree

end AsmNavigator
