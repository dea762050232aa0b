import AsmNavigator.Proofs.Files.Sound
import AsmNavigator.Proofs.Session.CachedResolver
import AsmNavigator.Proofs.Source.ReexportCount
import Mathlib.Data.List.Chain
import Mathlib.Data.List.Nodup

/-! # Walks along re-exports

A re-exported name leads from a file to the file that the re-export names. A walk that
meets no pair of file and name twice is bounded: all its files but the last re-export
something, and a tree has only so many re-exports, each under so many paths. So there is
one longest walk from every pair.
-/

namespace AsmNavigator.Session

open Source Workspace

abbrev Symbol := Path × String

namespace Context

variable (c : Context)

def expressionFor (file : Path) (moduleName : String) : String :=
  ((c.summary file).imports.get? moduleName).getD moduleName

/-- Where the re-export of a name leads, if the file re-exports it and its module is found. -/
def next (s : Symbol) : Except Fault (Option Symbol) :=
  match (c.summary s.1).reexports.get? s.2 with
  | none => .ok none
  | some reexport => do
      let target? ← c.freshResolution s.1 reexport.moduleName
        (c.expressionFor s.1 reexport.moduleName)
      return target?.map (·, reexport.declared)

def direct (s : Symbol) : Option Location :=
  (definitionIn .procedure s.1 s.2 (Source.read c.world s.1)).location?

def IsWalk (start : Symbol) (walk : List Symbol) : Prop :=
  walk.head? = some start ∧ walk.IsChain fun s t => c.next s = .ok (some t)

/-- A walk that meets no pair twice and cannot be continued without doing so. -/
structure IsLongestWalk (start : Symbol) (walk : List Symbol) : Prop where
  isWalk : c.IsWalk start walk
  nodup : walk.Nodup
  stops : ∀ {last t}, walk.getLast? = some last → c.next last = .ok (some t) → t ∈ walk

end Context

variable {c : Context}

theorem next_of_reexport {s : Symbol} {reexport : Reexport}
    (h : (c.summary s.1).reexports.get? s.2 = some reexport) :
    c.next s = (c.resolution s.1 (c.expressionFor s.1 reexport.moduleName)).map
      (·.map (·, reexport.declared)) := by
  unfold Context.next
  simp only [h, freshResolution_eq]
  cases c.resolution s.1 (c.expressionFor s.1 reexport.moduleName) <;> rfl

theorem next_of_no_reexport {s : Symbol} (h : (c.summary s.1).reexports.get? s.2 = none) :
    c.next s = .ok none := by
  unfold Context.next
  rw [h]

/-! ## One longest walk at most -/

theorem Context.IsLongestWalk.next_eq {start s t : Symbol} {done rest : List Symbol}
    (h : c.IsLongestWalk start (done ++ s :: t :: rest)) : c.next s = .ok (some t) := by
  have hchain := h.isWalk.2
  rw [List.isChain_append] at hchain
  exact (List.isChain_cons_cons.mp hchain.2.1).1

/-- A longest walk does not end where another one goes on. -/
theorem Context.IsLongestWalk.not_extended {start s t : Symbol} {done rest : List Symbol}
    (hshort : c.IsLongestWalk start (done ++ [s])) :
    ¬ c.IsLongestWalk start (done ++ s :: t :: rest) := by
  intro hlong
  have hmem : t ∈ done ++ [s] := hshort.stops (by simp) hlong.next_eq
  have hnodup := hlong.nodup
  rw [List.append_cons] at hnodup
  exact (List.nodup_append.mp hnodup).2.2 t hmem t (by simp) rfl

/-- Two longest walks that agree up to a pair agree from there on. -/
theorem eq_of_isLongestWalk_append {start s : Symbol} {done rest rest' : List Symbol}
    (h : c.IsLongestWalk start (done ++ s :: rest))
    (h' : c.IsLongestWalk start (done ++ s :: rest')) : rest = rest' := by
  induction rest generalizing done s rest' with
  | nil =>
      cases rest' with
      | nil => rfl
      | cons t more => exact (h.not_extended h').elim
  | cons t more ih =>
      cases rest' with
      | nil => exact (h'.not_extended h).elim
      | cons t' more' =>
          have hsame := h.next_eq.symm.trans h'.next_eq
          cases hsame
          rw [List.append_cons] at h h'
          rw [ih h h']

theorem Context.IsLongestWalk.eq {start : Symbol} {walk walk' : List Symbol}
    (h : c.IsLongestWalk start walk) (h' : c.IsLongestWalk start walk') : walk = walk' := by
  obtain ⟨rest, rfl⟩ := List.head?_eq_some_iff.mp h.isWalk.1
  obtain ⟨rest', rfl⟩ := List.head?_eq_some_iff.mp h'.isWalk.1
  rw [eq_of_isLongestWalk_append (show c.IsLongestWalk start ([] ++ start :: rest) from h) h']

/-! ## The length of walks -/

theorem exists_next_of_mem {walk : List Symbol}
    (h : walk.IsChain fun s t => c.next s = .ok (some t)) {s : Symbol}
    (hs : s ∈ walk.dropLast) : ∃ t, c.next s = .ok (some t) := by
  induction walk with
  | nil => cases hs
  | cons first rest ih =>
      cases rest with
      | nil => cases hs
      | cons second rest =>
          obtain ⟨hfirst, hrest⟩ := List.isChain_cons_cons.mp h
          rcases List.mem_cons.mp hs with rfl | hs
          · exact ⟨second, hfirst⟩
          · exact ih hrest hs

theorem reexport_of_next {s t : Symbol} (h : c.next s = .ok (some t)) :
    ∃ reexport, (c.summary s.1).reexports.get? s.2 = some reexport := by
  cases hget : (c.summary s.1).reexports.get? s.2 with
  | none =>
      rw [next_of_no_reexport hget] at h
      cases h
  | some reexport => exact ⟨reexport, rfl⟩

def reexportedBy : Node → List String
  | .file bytes => (Summary.ofLines (Text.diskLines (Text.Utf8.decode bytes))).reexports.keys
  | .directory | .link _ => []

/-- Every path that can lead somewhere, with every name that some file re-exports. -/
def stations (tree : FileTree) : List Symbol :=
  [Root.none, Root.slash, Root.doubleSlash].flatMap fun root =>
    (partsOver tree.components FileTree.pathLimit).flatMap fun parts =>
      (tree.nodes.entries.flatMap fun node => reexportedBy node.2).map (⟨root, parts⟩, ·)

/-- A file that re-exports something is there. -/
theorem exists_bytes_of_reexport {s : Symbol} {reexport : Reexport}
    (h : (c.summary s.1).reexports.get? s.2 = some reexport) :
    ∃ bytes, c.world.tree.stat c.world.env.cwd s.1 = .ok (.file bytes) ∧
      s.2 ∈ reexportedBy (.file bytes) := by
  unfold Context.summary Source.read World.readText FileTree.readText at h
  cases hread : c.world.tree.readBytes c.world.env.cwd s.1 with
  | error fault =>
      rw [hread] at h
      cases h
  | ok bytes =>
      rw [hread] at h
      exact ⟨bytes, FileTree.stat_of_readBytes hread,
        List.mem_map.mpr ⟨_, OrderedMap.mem_of_get? h, rfl⟩⟩

theorem mem_stations_of_reexport {s : Symbol} {reexport : Reexport}
    (h : (c.summary s.1).reexports.get? s.2 = some reexport) : s ∈ stations c.world.tree := by
  obtain ⟨bytes, hstat, hname⟩ := exists_bytes_of_reexport h
  obtain ⟨hexpressible, place, hwalk, hentry⟩ := FileTree.stat_ok_iff.mp hstat
  have hne : place ≠ [] := by
    rintro rfl
    cases hentry
  have hnode := FileTree.mem_entries_of_entryAt? hne hentry
  have hcomponents : ∀ part ∈ s.1.parts, part ∈ c.world.tree.components := by
    intro part hpart
    refine FileTree.mem_components_of_walk hwalk part ?_
    unfold FileTree.fromTop
    split
    · exact hpart
    · exact List.mem_append_right _ hpart
  refine List.mem_flatMap.mpr ⟨s.1.root, by cases s.1.root <;> simp, ?_⟩
  refine List.mem_flatMap.mpr ⟨s.1.parts, mem_partsOver hexpressible.length_le hcomponents, ?_⟩
  exact List.mem_map.mpr ⟨s.2, List.mem_flatMap.mpr ⟨_, hnode, hname⟩, rfl⟩

def bytesHeld : Node → Nat
  | .file bytes => bytes.size
  | .directory | .link _ => 0

theorem totalBytes_eq (tree : FileTree) :
    tree.totalBytes = (tree.nodes.entries.map fun node => bytesHeld node.2).sum := by
  unfold FileTree.totalBytes
  rw [List.sum_eq_foldl_nat, List.foldl_map]
  congr 1
  funext sum node
  obtain ⟨place, (bytes | _) | target⟩ := node <;> rfl

theorem length_reexportedBy_le (node : Node) : (reexportedBy node).length ≤ bytesHeld node := by
  rcases node with (bytes | _) | target
  · have hsize := Summary.size_reexports_le_size bytes
    simpa [reexportedBy, bytesHeld, OrderedMap.keys, OrderedMap.size] using hsize
  · exact Nat.zero_le _
  · exact Nat.zero_le _

theorem length_flatMap_reexportedBy_le (tree : FileTree) :
    (tree.nodes.entries.flatMap fun node => reexportedBy node.2).length ≤ tree.totalBytes := by
  rw [totalBytes_eq]
  induction tree.nodes.entries with
  | nil => simp
  | cons node rest ih =>
      have hnode := length_reexportedBy_le node.2
      rw [List.flatMap_cons, List.length_append, List.map_cons, List.sum_cons]
      omega

theorem length_stations_le (tree : FileTree) :
    (stations tree).length ≤ tree.pathCount * tree.totalBytes := by
  have hparts : (partsOver tree.components FileTree.pathLimit).length ≤
      (tree.nodes.size + 2) ^ FileTree.pathLimit :=
    (length_partsOver_le _ _).trans
      (Nat.pow_le_pow_left (Nat.succ_le_succ (FileTree.length_components_le tree)) _)
  have hnames := length_flatMap_reexportedBy_le tree
  have hlength : (stations tree).length =
      3 * ((partsOver tree.components FileTree.pathLimit).length *
        (tree.nodes.entries.flatMap fun node => reexportedBy node.2).length) := by
    unfold stations
    generalize partsOver tree.components FileTree.pathLimit = parts
    generalize (tree.nodes.entries.flatMap fun node => reexportedBy node.2) = names
    simp only [List.length_flatMap, List.length_map, List.map_const', List.sum_replicate_nat,
      List.length_cons, List.length_nil]
  rw [hlength, FileTree.pathCount, Nat.mul_assoc]
  exact Nat.mul_le_mul_left 3 (Nat.mul_le_mul hparts hnames)

def Context.walkLimit (c : Context) : Nat :=
  c.world.tree.pathCount * c.world.tree.totalBytes + 1

theorem length_le_walkLimit {start : Symbol} {walk : List Symbol} (h : c.IsWalk start walk)
    (hnodup : walk.Nodup) : walk.length ≤ c.walkLimit := by
  have hsubset : walk.dropLast ⊆ stations c.world.tree := by
    intro s hs
    obtain ⟨t, hnext⟩ := exists_next_of_mem h.2 hs
    obtain ⟨reexport, hget⟩ := reexport_of_next hnext
    exact mem_stations_of_reexport hget
  have hlength := (hnodup.sublist (List.dropLast_sublist walk)).length_le_of_subset hsubset
  have hlimit := length_stations_le c.world.tree
  rw [List.length_dropLast] at hlength
  unfold Context.walkLimit
  omega

end AsmNavigator.Session
