import AsmNavigator.Proofs.Data.OrderedMap
import AsmNavigator.Proofs.Data.Outcome
import AsmNavigator.Proofs.Files.Join
import AsmNavigator.Proofs.Files.Naming

/-! # Trees as they are on disk

In a sound tree every place is listed once, everything stands in a directory, and names
are not over-long. Without symbolic links, what is found at an absolute path without `..`
is then what stands at its components.
-/

namespace AsmNavigator

namespace FileTree

/-- Every place is listed once, everything stands in a directory, and names are such that
walks can follow them. -/
structure Sound (tree : FileTree) : Prop where
  nodup : tree.nodes.keys.Nodup
  names : ∀ {place}, place ∈ tree.nodes.keys → ∀ part ∈ place,
    part ≠ ".." ∧ Text.nameSize part ≤ nameLimit
  parents : ∀ {place}, place ∈ tree.nodes.keys → tree.entryAt? place.dropLast = some .directory

structure IsPlain (tree : FileTree) : Prop extends Sound tree where
  linkFree : tree.IsLinkFree

variable {tree : FileTree} {cwd p : Path}

@[simp] theorem entryAt?_nil (tree : FileTree) : tree.entryAt? [] = some .directory := rfl

theorem entryAt?_of_ne_nil {place : List String} (h : place ≠ []) :
    tree.entryAt? place = (tree.nodes.get? place).bind Node.held? := by
  unfold entryAt?
  rw [if_neg (by simpa using h)]

theorem mem_entries_of_entryAt? {place : List String} {entry : Entry} (hne : place ≠ [])
    (h : tree.entryAt? place = some entry) : (place, Node.entry entry) ∈ tree.nodes.entries := by
  rw [entryAt?_of_ne_nil hne] at h
  obtain ⟨node, hnode, hheld⟩ := Option.bind_eq_some_iff.mp h
  cases node with
  | entry held =>
      obtain rfl : held = entry := Option.some.inj hheld
      exact OrderedMap.mem_of_get? hnode
  | link target => cases hheld

theorem mem_keys_of_entryAt? {place : List String} (hne : place ≠ [])
    (h : (tree.entryAt? place).isSome) : place ∈ tree.nodes.keys := by
  rw [OrderedMap.mem_keys_iff]
  rw [entryAt?_of_ne_nil hne] at h
  exact Option.isSome_of_isSome_bind h

theorem IsLinkFree.mem_keys_iff (h : tree.IsLinkFree) {place : List String} (hne : place ≠ []) :
    place ∈ tree.nodes.keys ↔ (tree.entryAt? place).isSome = true := by
  refine ⟨fun hkey => ?_, mem_keys_of_entryAt? hne⟩
  rw [OrderedMap.mem_keys_iff] at hkey
  obtain ⟨node, hnode⟩ := Option.isSome_iff_exists.mp hkey
  have hlink := h _ (OrderedMap.mem_of_get? hnode)
  rw [entryAt?_of_ne_nil hne, hnode]
  cases node with
  | entry held => rfl
  | link target => cases hlink

/-- Without links it is enough to look at files and directories. -/
theorem IsPlain.of_entries (hnodup : tree.nodes.keys.Nodup) (hlinks : tree.IsLinkFree)
    (hnames : ∀ {place}, (tree.entryAt? place).isSome → ∀ part ∈ place,
      part ≠ ".." ∧ Text.nameSize part ≤ nameLimit)
    (hparents : ∀ {place}, (tree.entryAt? place).isSome →
      tree.entryAt? place.dropLast = some .directory) : tree.IsPlain := by
  have hentry : ∀ {place}, place ∈ tree.nodes.keys → (tree.entryAt? place).isSome := by
    intro place hkey
    by_cases hne : place = []
    · simp [hne, entryAt?]
    · exact (hlinks.mem_keys_iff hne).mp hkey
  exact ⟨⟨hnodup, fun hkey => hnames (hentry hkey), fun hkey => hparents (hentry hkey)⟩, hlinks⟩

theorem IsPlain.names_of_entry (h : tree.IsPlain) {place : List String}
    (hentry : (tree.entryAt? place).isSome) :
    ∀ part ∈ place, part ≠ ".." ∧ Text.nameSize part ≤ nameLimit := by
  intro part hpart
  exact h.names (mem_keys_of_entryAt? (List.ne_nil_of_mem hpart) hentry) part hpart

theorem IsPlain.parent_of_entry (h : tree.IsPlain) {place : List String}
    (hentry : (tree.entryAt? place).isSome) : tree.entryAt? place.dropLast = some .directory := by
  by_cases hne : place = []
  · simp [hne, entryAt?]
  · exact h.parents (mem_keys_of_entryAt? hne hentry)

theorem isPlain_empty : empty.IsPlain where
  nodup := by simp [empty, OrderedMap.keys, OrderedMap.empty]
  names := by simp [empty, OrderedMap.keys, OrderedMap.empty]
  parents := by simp [empty, OrderedMap.keys, OrderedMap.empty]
  linkFree := by simp [IsLinkFree, empty, OrderedMap.empty]

theorem any_isDirectory_iff {place : List String} :
    (tree.entryAt? place).any Entry.isDirectory = true ↔ tree.entryAt? place = some .directory := by
  rcases tree.entryAt? place with _ | _ | _ <;> simp [Entry.isDirectory]

theorem sound_iff : tree.Sound ↔
    tree.nodes.keys.Nodup ∧ ∀ place ∈ tree.nodes.keys,
      (∀ part ∈ place, part ≠ ".." ∧ Text.nameSize part ≤ nameLimit) ∧
        (tree.entryAt? place.dropLast).any Entry.isDirectory = true := by
  simp only [any_isDirectory_iff]
  constructor
  · intro h
    exact ⟨h.nodup, fun place hplace => ⟨h.names hplace, h.parents hplace⟩⟩
  · rintro ⟨hnodup, hplaces⟩
    exact ⟨hnodup, fun hplace => (hplaces _ hplace).1, fun hplace => (hplaces _ hplace).2⟩

instance (tree : FileTree) : Decidable tree.Sound := decidable_of_iff' _ sound_iff

instance (tree : FileTree) : Decidable tree.IsPlain :=
  decidable_of_iff (tree.Sound ∧ tree.IsLinkFree)
    ⟨fun h => ⟨h.1, h.2⟩, fun h => ⟨h.toSound, h.linkFree⟩⟩

/-! ## Looking up in a sound tree -/

theorem Sound.directory_above (h : tree.Sound) {above below : List String} (hne : below ≠ [])
    (hkey : above ++ below ∈ tree.nodes.keys) : tree.entryAt? above = some .directory := by
  induction below using List.reverseRecOn with
  | nil => exact absurd rfl hne
  | append_singleton below last ih =>
      have hparent := h.parents hkey
      rw [← List.append_assoc, List.dropLast_concat] at hparent
      cases below with
      | nil => simpa using hparent
      | cons part rest =>
          exact ih (by simp) (mem_keys_of_entryAt? (by simp) (by simp [hparent]))

theorem Sound.directory_above_entry (h : tree.Sound) {above below : List String}
    (hne : below ≠ []) (hentry : (tree.entryAt? (above ++ below)).isSome) :
    tree.entryAt? above = some .directory :=
  h.directory_above hne (mem_keys_of_entryAt? (List.append_ne_nil_of_right_ne_nil _ hne) hentry)

theorem reached?_of_entry {place : List String} (h : (tree.entryAt? place).isSome) :
    tree.reached? place = some place := by
  obtain ⟨entry, hentry⟩ := Option.isSome_iff_exists.mp h
  simp [reached?, hentry]

theorem Sound.walk_eq (h : tree.Sound) {above below : List String}
    (hentry : (tree.entryAt? (above ++ below)).isSome) :
    tree.walk above below = .ok (above ++ below) := by
  induction below generalizing above with
  | nil => simp [walk]
  | cons part rest ih =>
      have hkey := mem_keys_of_entryAt? (by simp) hentry
      have hdirectory := h.directory_above (by simp) hkey
      obtain ⟨hdots, hsize⟩ := h.names hkey part (by simp)
      rw [List.append_cons] at hentry hkey ⊢
      have hpart : (tree.entryAt? (above ++ [part])).isSome := by
        cases rest with
        | nil => simpa using hentry
        | cons next rest => simp [h.directory_above (by simp) hkey]
      have hnext : tree.enter above part = .ok (above ++ [part]) :=
        enter_ok_iff.mpr ⟨hdirectory, .inr ⟨hdots, hsize, reached?_of_entry hpart⟩⟩
      rw [walk_cons, hnext]
      exact ih hentry

/-- Without links a walk without `..` goes where its components say. -/
theorem IsLinkFree.eq_append_of_walk (h : tree.IsLinkFree) {place parts q : List String}
    (hparts : ".." ∉ parts) (hwalk : tree.walk place parts = .ok q) : q = place ++ parts := by
  induction parts generalizing place with
  | nil => simpa [walk] using hwalk.symm
  | cons part rest ih =>
      have hup : part ≠ ".." := fun heq => hparts (by simp [heq])
      have hrest : ".." ∉ rest := fun hmem => hparts (List.mem_cons_of_mem _ hmem)
      obtain ⟨next, hnext, hwalk⟩ := walk_cons_ok hwalk
      obtain ⟨-, ⟨heq, -⟩ | ⟨-, -, hreached⟩⟩ := enter_ok_iff.mp hnext
      · exact absurd heq hup
      · rw [ih hrest hwalk, eq_of_reached hreached (h.link?_eq_none _)]
        simp

end FileTree

/-- An absolute path that leads to its place without detours. -/
structure Path.IsDirect (p : Path) : Prop where
  root : p.root = .slash
  noUp : ".." ∉ p.parts

theorem Path.IsDirect.below {p : Path} (h : p.IsDirect) {parts : List String}
    (hparts : ".." ∉ parts) : (p.below parts).IsDirect := by
  refine ⟨h.root, ?_⟩
  rw [below_parts, List.mem_append, not_or]
  exact ⟨h.noUp, hparts⟩

namespace FileTree

variable {tree : FileTree} {cwd p : Path}

theorem fromTop_of_isDirect (hp : p.IsDirect) : fromTop cwd p = p.parts := by
  unfold fromTop Path.isAbsolute
  rw [hp.root]
  rfl

theorem IsLinkFree.place_of_isDirect (h : tree.IsLinkFree) (hp : p.IsDirect)
    {place : List String} (hwalk : tree.walk [] (fromTop cwd p) = .ok place) : place = p.parts := by
  rw [fromTop_of_isDirect hp] at hwalk
  rw [h.eq_append_of_walk hp.noUp hwalk, List.nil_append]

theorem Sound.walk_of_entry (h : tree.Sound) (hp : p.IsDirect)
    (hentry : (tree.entryAt? p.parts).isSome) :
    tree.walk [] (fromTop cwd p) = .ok p.parts := by
  rw [fromTop_of_isDirect hp]
  have hwalk : tree.walk [] p.parts = .ok ([] ++ p.parts) := h.walk_eq hentry
  exact hwalk

theorem IsPlain.stat_ok_iff (h : tree.IsPlain) (hp : p.IsDirect) {entry : Entry} :
    tree.stat cwd p = .ok entry ↔ p.Expressible ∧ tree.entryAt? p.parts = some entry := by
  rw [FileTree.stat_ok_iff]
  constructor
  · rintro ⟨hexpressible, place, hwalk, hentry⟩
    rw [h.linkFree.place_of_isDirect hp hwalk] at hentry
    exact ⟨hexpressible, hentry⟩
  · rintro ⟨hexpressible, hentry⟩
    exact ⟨hexpressible, p.parts, h.walk_of_entry hp (by simp [hentry]), hentry⟩

theorem IsPlain.list_ok_iff (h : tree.IsPlain) (hp : p.IsDirect) {names : List String} :
    tree.list cwd p = .ok names ↔
      p.Expressible ∧ tree.entryAt? p.parts = some .directory ∧ tree.namesIn p.parts = names := by
  rw [FileTree.list_ok_iff]
  constructor
  · rintro ⟨hexpressible, place, hwalk, hentry, hnames⟩
    rw [h.linkFree.place_of_isDirect hp hwalk] at hentry hnames
    exact ⟨hexpressible, hentry, hnames⟩
  · rintro ⟨hexpressible, hentry, hnames⟩
    exact ⟨hexpressible, p.parts, h.walk_of_entry hp (by simp [hentry]), hentry, hnames⟩

/-- A path that can be looked up is refused, if at all, by the operating system. -/
theorem list_refused (hp : p.Expressible) {fault : Fault} (h : tree.list cwd p = .error fault) :
    ∃ cause, fault = .os cause p.toString := by
  unfold list at h
  rw [locate_eq hp] at h
  cases hwalk : tree.walk [] (fromTop cwd p) with
  | error cause =>
      simp only [hwalk, bind, Except.bind] at h
      cases h
      exact ⟨cause, rfl⟩
  | ok place =>
      simp only [hwalk, bind, Except.bind] at h
      rcases hnode : tree.entryAt? place with _ | entry
      · simp only [hnode] at h
        cases h
        exact ⟨_, rfl⟩
      · cases entry with
        | directory => simp [hnode, pure, Except.pure] at h
        | file bytes =>
            simp only [hnode] at h
            cases h
            exact ⟨_, rfl⟩

theorem stat_refused (hp : p.Expressible) {fault : Fault} (h : tree.stat cwd p = .error fault) :
    ∃ cause, fault = .os cause p.toString := by
  unfold stat at h
  rw [locate_eq hp] at h
  cases hwalk : tree.walk [] (fromTop cwd p) with
  | error cause =>
      simp only [hwalk] at h
      cases h
      exact ⟨cause, rfl⟩
  | ok place =>
      simp only [hwalk] at h
      cases hnode : tree.entryAt? place with
      | none =>
          simp only [hnode] at h
          cases h
          exact ⟨_, rfl⟩
      | some entry => simp [hnode] at h

theorem mem_namesIn {place : List String} {name : String} :
    name ∈ tree.namesIn place ↔ place ++ [name] ∈ tree.nodes.keys := by
  unfold namesIn OrderedMap.keys
  rw [List.mem_filterMap, List.mem_map]
  constructor
  · rintro ⟨⟨parts, entry⟩, hmem, hname⟩
    simp only at hname
    split at hname
    · next hparent =>
        refine ⟨_, hmem, ?_⟩
        rw [← hparent]
        exact (List.dropLast_append_getLast? name hname).symm
    · cases hname
  · rintro ⟨⟨parts, entry⟩, hmem, heq⟩
    simp only at heq
    subst heq
    exact ⟨_, hmem, by simp⟩

theorem IsLinkFree.mem_namesIn (h : tree.IsLinkFree) {place : List String} {name : String} :
    name ∈ tree.namesIn place ↔ (tree.entryAt? (place ++ [name])).isSome = true := by
  rw [FileTree.mem_namesIn, h.mem_keys_iff (by simp)]

/-- What a directory lists is a matter of the places that the tree lists. -/
theorem namesIn_eq (place : List String) :
    tree.namesIn place = tree.nodes.keys.filterMap fun parts =>
      if parts.dropLast = place then parts.getLast? else none := by
  unfold namesIn OrderedMap.keys
  rw [List.filterMap_map]
  rfl

theorem Sound.nodup_namesIn (h : tree.Sound) (place : List String) :
    (tree.namesIn place).Nodup := by
  rw [namesIn_eq]
  apply h.nodup.filterMap
  intro parts parts' name hname hname'
  simp only [Option.mem_def] at hname hname'
  split at hname
  · next hparent =>
      split at hname'
      · next hparent' =>
          rw [← List.dropLast_append_getLast? name hname,
            ← List.dropLast_append_getLast? name hname', hparent, hparent']
      · cases hname'
  · cases hname

/-! ## Regular files -/

def fileAt (tree : FileTree) (place : List String) : Option ByteArray :=
  match tree.entryAt? place with
  | some (.file bytes) => some bytes
  | _ => none

theorem fileAt_eq_some_iff {place : List String} {bytes : ByteArray} :
    tree.fileAt place = some bytes ↔ tree.entryAt? place = some (.file bytes) := by
  unfold fileAt
  rcases tree.entryAt? place with _ | _ | _ <;> simp

/-- The bytes of the file that is read at a place, behind a link if one stands there. -/
def contentsAt (tree : FileTree) (place : List String) : Option ByteArray :=
  (tree.reached? place).bind tree.fileAt

theorem contentsAt_eq_some_iff {place : List String} {bytes : ByteArray} :
    tree.contentsAt place = some bytes ↔
      ∃ reached, tree.reached? place = some reached ∧
        tree.entryAt? reached = some (.file bytes) := by
  unfold contentsAt
  simp only [Option.bind_eq_some_iff, fileAt_eq_some_iff]

theorem IsLinkFree.contentsAt_eq (h : tree.IsLinkFree) (place : List String) :
    tree.contentsAt place = tree.fileAt place := by
  unfold contentsAt
  cases hreached : tree.reached? place with
  | some reached => rw [eq_of_reached hreached (h.link?_eq_none place), Option.bind_some]
  | none =>
      have hentry : tree.entryAt? place = none := by
        by_contra hsome
        rw [reached?_of_entry (Option.isSome_iff_ne_none.mpr hsome)] at hreached
        cases hreached
      simp [fileAt, hentry]

theorem readBytes_of_stat {bytes : ByteArray} (h : tree.stat cwd p = .ok (.file bytes)) :
    tree.readBytes cwd p = .ok bytes := by
  unfold readBytes
  rw [h]
  rfl

theorem stat_of_readBytes {bytes : ByteArray} (h : tree.readBytes cwd p = .ok bytes) :
    tree.stat cwd p = .ok (.file bytes) := by
  unfold readBytes at h
  obtain ⟨entry, hstat, h⟩ := bind_eq_ok.mp h
  cases entry with
  | file found =>
      cases h
      exact hstat
  | directory => cases h

theorem IsPlain.readBytes_ok_iff (h : tree.IsPlain) (hp : p.IsDirect) {bytes : ByteArray} :
    tree.readBytes cwd p = .ok bytes ↔ p.Expressible ∧ tree.fileAt p.parts = some bytes := by
  rw [fileAt_eq_some_iff, ← h.stat_ok_iff hp]
  exact ⟨stat_of_readBytes, readBytes_of_stat⟩

theorem readBytes_refused (hp : p.Expressible) {fault : Fault}
    (h : tree.readBytes cwd p = .error fault) : ∃ cause, fault = .os cause p.toString := by
  unfold readBytes at h
  rcases hstat : tree.stat cwd p with refusal | _ | _
  · rw [hstat] at h
    cases h
    exact stat_refused hp hstat
  · rw [hstat] at h
    cases h
  · rw [hstat] at h
    cases h
    exact ⟨_, rfl⟩

end FileTree

end AsmNavigator
