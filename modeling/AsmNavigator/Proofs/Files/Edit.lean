import AsmNavigator.Proofs.Files.Sound
import Mathlib.Data.List.Infix

/-! # Writing and removing files

A file can be written where nothing is in the way; the directories above it are added.
Writing and removing keep a tree sound and change one regular file only.
`DiffersOnlyAt` collects what several such changes leave as it was.
-/

namespace AsmNavigator

namespace FileTree

variable {tree : FileTree} {cwd p : Path}

/-- Nothing is in the way of a file at a path: the path can be looked up, its names can be
names of files, no regular file stands above it and no directory at it. -/
structure Writable (tree : FileTree) (p : Path) : Prop where
  expressible : p.Expressible
  nonempty : p.parts ≠ []
  names : ∀ part ∈ p.parts, part ≠ ".." ∧ Text.nameSize part ≤ nameLimit
  above : ∀ {place}, place <+: p.parts.dropLast → tree.fileAt place = none
  notDirectory : tree.entryAt? p.parts ≠ some .directory

instance (tree : FileTree) (p : Path) : Decidable (tree.Writable p) :=
  decidable_of_iff (p.Expressible ∧ p.parts ≠ [] ∧
      (∀ part ∈ p.parts, part ≠ ".." ∧ Text.nameSize part ≤ nameLimit) ∧
      (∀ place ∈ p.parts.dropLast.inits, tree.fileAt place = none) ∧
      (tree.entryAt? p.parts).any Entry.isDirectory = false) <| by
    constructor
    · rintro ⟨hexpressible, hnonempty, hnames, habove, hnode⟩
      refine ⟨hexpressible, hnonempty, hnames, fun h => habove _ (List.mem_inits _ _ |>.mpr h), ?_⟩
      intro hdirectory
      rw [hdirectory] at hnode
      cases hnode
    · rintro ⟨hexpressible, hnonempty, hnames, habove, hnode⟩
      refine ⟨hexpressible, hnonempty, hnames,
        fun place h => habove (List.mem_inits _ _ |>.mp h), ?_⟩
      rcases hentry : tree.entryAt? p.parts with _ | _ | _
      · rfl
      · rfl
      · exact absurd hentry hnode

theorem nodup_makeDirectoriesFrom {place parts : List String} (h : tree.nodes.keys.Nodup) :
    (tree.makeDirectoriesFrom place parts).nodes.keys.Nodup := by
  induction parts generalizing tree place with
  | nil => exact h
  | cons part rest ih => exact ih (OrderedMap.nodup_keys_insertIfNew h _ _)

def OnTheWay (place parts other : List String) : Prop :=
  place <+: other ∧ other <+: place ++ parts ∧ other ≠ place

instance (place parts other : List String) : Decidable (OnTheWay place parts other) :=
  inferInstanceAs (Decidable (_ ∧ _ ∧ _))

theorem onTheWay_nil (place other : List String) : ¬ OnTheWay place [] other := by
  rintro ⟨hbelow, habove, hne⟩
  rw [List.append_nil] at habove
  exact hne (habove.eq_of_length_le hbelow.length_le)

theorem onTheWay_cons {place rest other : List String} {part : String} :
    OnTheWay place (part :: rest) other ↔
      place ++ [part] = other ∨ OnTheWay (place ++ [part]) rest other := by
  constructor
  · rintro ⟨⟨below, rfl⟩, habove, hne⟩
    rw [List.prefix_append_right_inj] at habove
    cases below with
    | nil => exact absurd (List.append_nil place) hne
    | cons first below =>
        obtain ⟨rfl, hbelow⟩ := List.cons_prefix_cons.mp habove
        cases below with
        | nil => exact .inl rfl
        | cons second below =>
            refine .inr ⟨⟨second :: below, by simp⟩, ?_, by simp⟩
            rw [List.append_cons]
            exact (List.prefix_append_right_inj _).mpr hbelow
  · rintro (rfl | ⟨hbelow, habove, -⟩)
    · exact ⟨⟨[part], rfl⟩, ⟨rest, by simp⟩, by simp⟩
    · refine ⟨(List.prefix_append place [part]).trans hbelow, by simpa using habove, ?_⟩
      rintro rfl
      have hlength := hbelow.length_le
      simp only [List.length_append, List.length_singleton] at hlength
      omega

/-- The directories that are added are those on the way; what is there stays. -/
theorem get?_makeDirectoriesFrom (place parts other : List String) :
    (tree.makeDirectoriesFrom place parts).nodes.get? other =
      (tree.nodes.get? other).or
        (if OnTheWay place parts other then some .directory else none) := by
  induction parts generalizing tree place with
  | nil => simp [makeDirectoriesFrom, onTheWay_nil]
  | cons part rest ih =>
      unfold makeDirectoriesFrom
      rw [ih, OrderedMap.get?_insertIfNew]
      simp only [onTheWay_cons]
      cases tree.nodes.get? other with
      | some entry => rfl
      | none =>
          by_cases heq : place ++ [part] = other
          · simp [heq]
          · simp [heq]

theorem isLinkFree_makeDirectoriesFrom {place parts : List String} (h : tree.IsLinkFree) :
    (tree.makeDirectoriesFrom place parts).IsLinkFree := by
  induction parts generalizing tree place with
  | nil => exact h
  | cons part rest ih =>
      refine ih fun node hnode => ?_
      rcases OrderedMap.mem_entries_insertIfNew hnode with hold | rfl
      · exact h node hold
      · rfl

theorem IsLinkFree.writeFile (h : tree.IsLinkFree) (parts : List String) (bytes : ByteArray) :
    (tree.writeFile parts bytes).IsLinkFree := by
  intro node hnode
  rcases OrderedMap.mem_entries_insert hnode with hold | rfl
  · exact isLinkFree_makeDirectoriesFrom h node hold
  · rfl

theorem IsLinkFree.remove (h : tree.IsLinkFree) (parts : List String) :
    (tree.remove parts).IsLinkFree :=
  fun node hnode => h node (List.mem_of_mem_filter hnode)

theorem IsLinkFree.entryAt?_writeFile (h : tree.IsLinkFree) {parts : List String}
    (hne : parts ≠ []) (bytes : ByteArray) (other : List String) :
    (tree.writeFile parts bytes).entryAt? other =
      if other = parts then some (.file bytes)
      else
        (tree.entryAt? other).or
          (if other <+: parts.dropLast then some .directory else none) := by
  by_cases hother : other = []
  · subst hother
    simp [Ne.symm hne]
  · rw [entryAt?_of_ne_nil hother, entryAt?_of_ne_nil hother]
    unfold FileTree.writeFile makeDirectories
    rw [OrderedMap.get?_insert, get?_makeDirectoriesFrom]
    have hway : OnTheWay [] parts.dropLast other ↔ other <+: parts.dropLast := by
      unfold OnTheWay
      simp [hother]
    by_cases heq : parts = other
    · simp [heq]
    · simp only [if_neg heq, if_neg (Ne.symm heq), hway]
      cases hnode : tree.nodes.get? other with
      | none => split <;> rfl
      | some node =>
          cases node with
          | entry held => rfl
          | link target => cases h _ (OrderedMap.mem_of_get? hnode)

theorem entryAt?_remove {place : List String} (hne : place ≠ []) (parts : List String) :
    (tree.remove parts).entryAt? place = if parts <+: place then none else tree.entryAt? place := by
  rw [entryAt?_of_ne_nil hne, entryAt?_of_ne_nil hne]
  have hfilter : (tree.remove parts).nodes.get? place =
      if parts <+: place then none else tree.nodes.get? place := by
    apply (OrderedMap.find?_filter_key (fun key => !parts.isPrefixOf key) place
      tree.nodes.entries).trans
    simp only [Bool.not_eq_true', ← Bool.not_eq_true, List.isPrefixOf_iff_prefix]
    split <;> simp_all [OrderedMap.get?]
  rw [hfilter]
  split <;> rfl

/-- Removing a file leaves everything else as it is. -/
theorem IsPlain.entryAt?_remove (h : tree.IsPlain) {parts : List String} {bytes : ByteArray}
    (hfile : tree.fileAt parts = some bytes) (other : List String) :
    (tree.remove parts).entryAt? other = if other = parts then none else tree.entryAt? other := by
  rw [fileAt_eq_some_iff] at hfile
  by_cases hother : other = []
  · subst hother
    have hne : [] ≠ parts := by
      rintro rfl
      simp at hfile
    simp [hne]
  · rw [FileTree.entryAt?_remove hother]
    by_cases heq : other = parts
    · simp [heq]
    · rw [if_neg heq]
      split
      · next hbelow =>
          -- what stood below a regular file would make it a directory
          obtain ⟨below, rfl⟩ := hbelow
          have hbelow : below ≠ [] := by
            rintro rfl
            simp at heq
          cases hnode : tree.entryAt? (parts ++ below) with
          | none => rfl
          | some entry =>
              have hsome : (tree.entryAt? (parts ++ below)).isSome := by simp [hnode]
              have hdirectory := h.directory_above_entry hbelow hsome
              rw [hfile] at hdirectory
              cases hdirectory
      · rfl

theorem IsLinkFree.fileAt_writeFile (h : tree.IsLinkFree) {parts : List String}
    (hne : parts ≠ []) (bytes : ByteArray) (other : List String) :
    (tree.writeFile parts bytes).fileAt other =
      if other = parts then some bytes else tree.fileAt other := by
  unfold fileAt
  rw [h.entryAt?_writeFile hne]
  by_cases hother : other = parts
  · simp [hother]
  · simp only [if_neg hother]
    cases tree.entryAt? other with
    | some entry => rfl
    | none => split <;> simp_all

theorem IsPlain.fileAt_remove (h : tree.IsPlain) {parts : List String} {bytes : ByteArray}
    (hfile : tree.fileAt parts = some bytes) (other : List String) :
    (tree.remove parts).fileAt other = if other = parts then none else tree.fileAt other := by
  unfold fileAt
  rw [h.entryAt?_remove hfile]
  by_cases hother : other = parts
  · simp [hother]
  · simp [hother]

/-- Above a file that was written there are directories. -/
theorem Writable.directory_above (hp : tree.Writable p) (hlinks : tree.IsLinkFree)
    (bytes : ByteArray) {place : List String} (hplace : place <+: p.parts.dropLast) :
    (tree.writeFile p.parts bytes).entryAt? place = some .directory := by
  have hne : place ≠ p.parts := by
    rintro rfl
    have hlength := hplace.length_le
    have hpositive := List.length_pos_iff.mpr hp.nonempty
    rw [List.length_dropLast] at hlength
    omega
  rw [hlinks.entryAt?_writeFile hp.nonempty, if_neg hne, if_pos hplace]
  have hfile := hp.above hplace
  unfold fileAt at hfile
  rcases hnode : tree.entryAt? place with _ | bytes | _
  · rfl
  · simp [hnode] at hfile
  · rfl

theorem IsPlain.writeFile (h : tree.IsPlain) (hp : tree.Writable p) (bytes : ByteArray) :
    (tree.writeFile p.parts bytes).IsPlain := by
  have hlinks := h.linkFree
  refine .of_entries ?_ (hlinks.writeFile _ _) ?_ ?_
  · exact OrderedMap.nodup_keys_insert (nodup_makeDirectoriesFrom h.nodup) _ _
  · intro place hnode part hpart
    rw [hlinks.entryAt?_writeFile hp.nonempty] at hnode
    split at hnode
    · next heq => exact hp.names part (heq ▸ hpart)
    · cases hold : tree.entryAt? place with
      | some entry => exact h.names_of_entry (by simp [hold]) part hpart
      | none =>
          simp only [hold, Option.none_or] at hnode
          split at hnode
          · next habove =>
              exact hp.names part ((List.dropLast_sublist _).subset (habove.subset hpart))
          · cases hnode
  · intro place hnode
    rw [hlinks.entryAt?_writeFile hp.nonempty] at hnode
    split at hnode
    · next heq => exact hp.directory_above hlinks bytes (heq ▸ List.prefix_rfl)
    · cases hold : tree.entryAt? place with
      | some entry =>
          have hsome : (tree.entryAt? place).isSome := by simp [hold]
          have hparent := h.parent_of_entry hsome
          rw [hlinks.entryAt?_writeFile hp.nonempty]
          split
          · next heq => exact absurd (heq ▸ hparent) hp.notDirectory
          · rw [hparent]
            rfl
      | none =>
          simp only [hold, Option.none_or] at hnode
          split at hnode
          · next habove =>
              exact hp.directory_above hlinks bytes ((List.dropLast_prefix place).trans habove)
          · cases hnode

theorem IsPlain.remove (h : tree.IsPlain) {parts : List String} {bytes : ByteArray}
    (hfile : tree.fileAt parts = some bytes) : (tree.remove parts).IsPlain := by
  have hold : ∀ {place},
      ((tree.remove parts).entryAt? place).isSome → (tree.entryAt? place).isSome := by
    intro place hnode
    rw [h.entryAt?_remove hfile] at hnode
    split at hnode
    · cases hnode
    · exact hnode
  refine .of_entries ?_ (h.linkFree.remove _) ?_ ?_
  · exact h.nodup.sublist (List.filter_sublist.map _)
  · intro place hnode
    exact h.names_of_entry (hold hnode)
  · intro place hnode
    have hparent := h.parent_of_entry (hold hnode)
    rw [h.entryAt?_remove hfile]
    split
    · next heq =>
        rw [fileAt_eq_some_iff, ← heq, hparent] at hfile
        cases hfile
    · exact hparent

/-! ## Several changes -/

/-- Outside some places no regular file has changed, and what cannot be looked up has not
changed at all. Without such places nothing has. -/
structure DiffersOnlyAt (changed : List (List String)) (old new : FileTree) : Prop where
  files : ∀ {place}, place ∉ changed → new.fileAt place = old.fileAt place
  unreachable : ∀ {place},
    ¬ (Path.mk .slash place).Expressible → new.entryAt? place = old.entryAt? place
  same : changed = [] → new = old

theorem DiffersOnlyAt.refl (tree : FileTree) : DiffersOnlyAt [] tree tree :=
  ⟨fun _ => rfl, fun _ => rfl, fun _ => rfl⟩

theorem DiffersOnlyAt.writeFile {changed : List (List String)} {old : FileTree}
    (h : DiffersOnlyAt changed old tree) (hlinks : tree.IsLinkFree) (hroot : p.root = .slash)
    (hp : tree.Writable p) (bytes : ByteArray) :
    DiffersOnlyAt (changed ++ [p.parts]) old (tree.writeFile p.parts bytes) := by
  refine ⟨?_, ?_, by simp⟩
  · intro place hplace
    rw [List.mem_append, List.mem_singleton, not_or] at hplace
    rw [hlinks.fileAt_writeFile hp.nonempty, if_neg hplace.2, h.files hplace.1]
  · intro place hplace
    have hbelow : ∀ parts : List String, place = parts → ¬ parts.Sublist p.parts := by
      rintro parts rfl hsublist
      exact hplace (hp.expressible.of_sublist hroot.symm hsublist)
    rw [hlinks.entryAt?_writeFile hp.nonempty, if_neg fun heq => hbelow _ heq (List.Sublist.refl _)]
    have habove : ¬ place <+: p.parts.dropLast := fun hup =>
      hbelow _ rfl (hup.sublist.trans (List.dropLast_sublist _))
    rw [if_neg habove, h.unreachable hplace, Option.or_none]

theorem DiffersOnlyAt.remove {changed : List (List String)} {old : FileTree}
    (h : DiffersOnlyAt changed old tree) (hplain : tree.IsPlain) (hroot : p.root = .slash)
    (hexpressible : p.Expressible) {bytes : ByteArray}
    (hfile : tree.fileAt p.parts = some bytes) :
    DiffersOnlyAt (changed ++ [p.parts]) old (tree.remove p.parts) := by
  refine ⟨?_, ?_, by simp⟩
  · intro place hplace
    rw [List.mem_append, List.mem_singleton, not_or] at hplace
    rw [hplain.fileAt_remove hfile, if_neg hplace.2, h.files hplace.1]
  · intro place hplace
    have hne : place ≠ p.parts := by
      rintro rfl
      exact hplace (hexpressible.of_sublist hroot.symm (List.Sublist.refl _))
    rw [hplain.entryAt?_remove hfile, if_neg hne, h.unreachable hplace]

end FileTree

end AsmNavigator
