import AsmNavigator.Proofs.Files.Sound
import AsmNavigator.Proofs.Files.Subtree
import AsmNavigator.Proofs.Session.Candidates
import AsmNavigator.Proofs.Session.Settled
import AsmNavigator.Proofs.Source.ImportShape
import AsmNavigator.Proofs.Workspace.Listing
import AsmNavigator.Proofs.Workspace.ScriptTables
import AsmNavigator.Proofs.Workspace.TableEntries

/-! # Direct paths lead to direct paths

If the registry has an absolute root and no path anywhere begins with exactly two slashes,
then a session that is asked about files under direct paths summarises files under direct
paths only: each file has one key in the caches.
-/

namespace AsmNavigator

namespace Session

open Config Source Workspace BuildScript

/-- The bindings of a build script name no directory with two leading slashes. -/
def HasPlainBindings (registry : Config.Registry) (bytes : ByteArray) : Prop :=
  ∀ binding ∈ bindings registry.excludedDirKeywords (Text.kept (Text.Utf8.decode bytes)),
    (Path.ofString binding.subdir).root ≠ .doubleSlash

/-- A context with a plain layout, as the default one is, in which no path has two leading
slashes: not the working directory, not the registry's root, and none in a build script. -/
structure IsRooted (c : Context) : Prop where
  layout : IsPlainLayout c.settings.layout
  script : IsPlainScript c.settings.layout
  cwd : c.world.env.cwd.root = .slash
  registry : ∀ {root}, Registry.root c.world c.registryRoot? = .ok root → root.root = .slash
  scripts : ∀ {place bytes}, c.world.tree.contentsAt place = some bytes →
    place.getLast? = some c.settings.layout.buildScript →
    HasPlainBindings c.settings.registry bytes

theorem isDirect_normalize {p : Path} (h : p.root = .slash) : p.normalize.IsDirect := by
  refine ⟨h, p.isNormal_normalize.not_mem ?_⟩
  unfold Path.isAbsolute
  rw [Path.normalize_root, h]
  rfl

theorem isDirect_parent {p : Path} (h : p.IsDirect) : p.parent.IsDirect :=
  ⟨h.root, fun hmem => h.noUp ((List.dropLast_sublist _).subset hmem)⟩

/-- A path that is joined to a rooted one has the same root, unless it has two slashes. -/
theorem root_div {p q : Path} (hp : p.root = .slash) (hq : q.root ≠ .doubleSlash) :
    (p / q).root = .slash := by
  show (p.append q).root = .slash
  unfold Path.append Path.isAbsolute
  cases hroot : q.root with
  | none => simpa using hp
  | slash => simpa using hroot
  | doubleSlash => exact absurd hroot hq

theorem isDirect_absolute {c : Context} (h : IsRooted c) {p : Path}
    (hp : p.root ≠ .doubleSlash) : (c.world.absolute p).IsDirect :=
  isDirect_normalize (root_div h.cwd hp)

/-! ## Roots of what is found -/

theorem root_of_mem_subdirectories {w : World} {p d : Path}
    (h : d ∈ listed (subdirectories w p)) : d.root = p.root := by
  cases hfound : subdirectories w p with
  | error fault =>
      rw [hfound] at h
      cases h
  | ok found =>
      rw [hfound] at h
      obtain ⟨-, name, -, -, rfl, -⟩ := exists_of_mem_subdirectories hfound h
      rfl

theorem root_of_mem_probes {c : Context} {segments : List String} {base p : Path}
    (h : p ∈ c.probes segments base) : p.root = base.root := by
  simp only [Context.probes, List.mem_cons, List.not_mem_nil, or_false] at h
  rcases h with rfl | rfl <;> rfl

theorem root_of_mem_subdirectoryProbes {c : Context} {segments : List String} {library p : Path}
    (h : p ∈ c.subdirectoryProbes segments library) : p.root = library.root := by
  obtain ⟨directory, hdirectory, hp⟩ := List.mem_flatMap.mp h
  rw [root_of_mem_probes hp, root_of_mem_subdirectories hdirectory]

theorem root_of_mem_ancestors {p q : Path} {depth : Nat} (h : q ∈ p.ancestors depth) :
    q.root = p.root :=
  confined_of_mem_ancestors (K := fun q => q.root = p.root) (fun _ h => h) rfl h

theorem root_of_workspaceRoot {c : Context} {file root : Path}
    (h : c.workspaceRoot file = .ok (some root)) : root.root = file.root :=
  (root_of_mem_ancestors (holds_of_firstDirectory h).1).trans file.parent_root

theorem root_of_projectRoot {c : Context} {file root : Path}
    (h : c.projectRoot file = .ok (some root)) : root.root = file.root :=
  (root_of_mem_ancestors (holds_of_firstDirectory h).1).trans file.parent_root

/-! ## Namespace tables -/

theorem plain_bindingsOf {c : Context} (h : IsRooted c) {crateDir : Path} {found : List Binding}
    (hfound : NamespaceTable.bindingsOf c.world c.settings.layout c.settings.registry crateDir =
      .ok found) :
    ∀ binding ∈ found, (Path.ofString binding.subdir).root ≠ .doubleSlash := by
  unfold NamespaceTable.bindingsOf World.readText FileTree.readText at hfound
  rw [Path.div_plain _ h.script.buildScript] at hfound
  cases hread : c.world.tree.readBytes c.world.env.cwd
      (crateDir.below [c.settings.layout.buildScript]) with
  | error fault =>
      rw [hread] at hfound
      cases fault <;> cases hfound
      simp
  | ok bytes =>
      rw [hread] at hfound
      obtain rfl : bindings _ (Text.kept (Text.Utf8.decode bytes)) = found :=
        Except.ok.inj hfound
      obtain ⟨-, place, hwalk, hnode⟩ :=
        FileTree.stat_ok_iff.mp (FileTree.stat_of_readBytes hread)
      rw [FileTree.fromTop_below] at hwalk
      obtain ⟨above, hreached⟩ :=
        FileTree.exists_reached_of_walk_concat h.script.buildScript.notUp hwalk
      have hcontents := FileTree.contentsAt_eq_some_iff.mpr ⟨place, hreached, hnode⟩
      exact h.scripts hcontents (by simp)

/-- Every entry of a table lies below a rooted path. -/
theorem rooted_of_table {c : Context} (h : IsRooted c) {root : Path}
    (hroot : root.root = .slash) {table : NamespaceTable} (htable : c.table root = .ok table) :
    EntriesSatisfy (fun crateDir subdir => crateDir.root = .slash ∧
      (Path.ofString subdir).root ≠ .doubleSlash) table := by
  refine EntriesSatisfy.discover ?_ htable
  intro crates hcrates crate hcrate found hfound binding hbinding
  have hmem : crate ∈ listed (subdirectories c.world (root / c.settings.layout.cratesDir)) := by
    rw [hcrates]
    exact hcrate
  refine ⟨?_, plain_bindingsOf h hfound binding hbinding⟩
  rw [root_of_mem_subdirectories hmem, Path.div_plain _ h.layout.cratesDir]
  exact hroot

/-! ## Candidates -/

theorem root_of_mem_registryCandidates {c : Context} (h : IsRooted c) {package : String}
    {segments : List String} {p : Path} (hp : p ∈ c.registryCandidates package segments) :
    p.root = .slash := by
  unfold Context.registryCandidates at hp
  cases hroot : Registry.root c.world c.registryRoot? with
  | error fault => simp [hroot] at hp
  | ok root =>
      simp only [hroot, List.mem_flatMap] at hp
      obtain ⟨indexDir, hindex, version, -, hp⟩ := hp
      rw [root_of_mem_probes hp, Path.below_root, root_of_mem_subdirectories hindex,
        Path.below_root]
      exact h.registry hroot

theorem root_of_mem_bindingCandidates {c : Context} (h : IsRooted c) {root : Path}
    (hroot : root.root = .slash) {name : String} {segments : List String} {p : Path}
    (hp : p ∈ c.bindingCandidates root name segments) : p.root = .slash := by
  unfold Context.bindingCandidates at hp
  cases htable : c.table root with
  | error fault => simp [htable] at hp
  | ok table =>
      simp only [htable] at hp
      cases hlookup : table.lookup? ("miden::" ++ name) with
      | none => simp [hlookup] at hp
      | some entry =>
          obtain ⟨hcrate, hsubdir⟩ := (rooted_of_table h hroot htable).lookup? hlookup
          simp only [hlookup, List.mem_append] at hp
          rcases hp with hp | hp
          · rw [root_of_mem_probes hp]
            exact root_div hcrate hsubdir
          · rw [root_of_mem_subdirectoryProbes hp]
            exact hcrate

theorem root_of_mem_crateCandidates {c : Context} {root : Path} {name : String}
    {segments : List String} {p : Path} (hp : p ∈ c.crateCandidates root name segments) :
    p.root = root.root := by
  unfold Context.crateCandidates at hp
  obtain ⟨crateDir, hcrate, hp⟩ := List.mem_flatMap.mp hp
  have hroot : crateDir.root = root.root := by
    rw [root_of_mem_subdirectories hcrate, Path.below_root]
  simp only [List.mem_append] at hp
  rcases hp with hp | hp
  · rw [root_of_mem_probes hp, Path.below_root, hroot]
  · rw [root_of_mem_subdirectoryProbes hp, Path.below_root, hroot]

theorem root_of_mem_namespacedCandidates {c : Context} (h : IsRooted c) {file : Path}
    (hfile : file.root = .slash) {name : String} {segments : List String} {p : Path}
    (hp : p ∈ c.namespacedCandidates file name segments) : p.root = .slash := by
  unfold Context.namespacedCandidates at hp
  cases hpackage : c.externalPackage? name with
  | some package =>
      rw [hpackage] at hp
      exact root_of_mem_registryCandidates h hp
  | none =>
      simp only [hpackage, List.mem_append] at hp
      rcases hp with hp | hp | hp | hp
      · unfold Context.workspaceCandidates at hp
        split at hp
        · next root hroot =>
            have hslash := (root_of_workspaceRoot hroot).trans hfile
            rcases List.mem_append.mp hp with hp | hp
            · exact root_of_mem_bindingCandidates h hslash hp
            · exact (root_of_mem_crateCandidates hp).trans hslash
        · cases hp
      · unfold Context.projectCandidates at hp
        split at hp
        · next root hroot =>
            rw [root_of_mem_probes hp, Path.below_root, root_of_projectRoot hroot, hfile]
        · cases hp
      · exact root_of_mem_registryCandidates h hp
      · exact root_of_mem_registryCandidates h hp

theorem root_of_mem_aliasCandidates {c : Context} {file : Path} {name : String} {p : Path}
    (hp : p ∈ c.aliasCandidates file name) : p.root = file.root := by
  unfold Context.aliasCandidates at hp
  obtain ⟨directory, hdirectory, hp⟩ := List.mem_flatMap.mp hp
  have hroot := root_of_mem_ancestors hdirectory
  rcases List.mem_append.mp hp with hp | hp
  · rw [root_of_mem_probes hp, Path.below_root, hroot, Path.parent_root]
  · rw [root_of_mem_probes hp, Path.below_root, Path.parent_root, hroot, Path.parent_root]

theorem root_of_mem_bareCandidates {c : Context} {file : Path} {name : String} {p : Path}
    (hp : p ∈ c.bareCandidates file name) : p.root = file.root := by
  unfold Context.bareCandidates at hp
  obtain ⟨base, hbase, hp⟩ := List.mem_flatMap.mp hp
  rw [root_of_mem_probes hp]
  simp only [List.mem_cons, List.not_mem_nil, or_false] at hbase
  rcases hbase with rfl | rfl | rfl | rfl <;> rfl

theorem root_of_mem_candidates {c : Context} (h : IsRooted c) {file : Path}
    (hfile : file.root = .slash) {segments : List String} {p : Path}
    (hp : p ∈ c.candidates file segments) : p.root = .slash := by
  unfold Context.candidates at hp
  split at hp
  · exact root_of_mem_namespacedCandidates h hfile hp
  · exact root_of_mem_registryCandidates h hp
  · split at hp
    · split at hp
      · exact (root_of_mem_aliasCandidates hp).trans hfile
      · cases hp
    · split at hp
      · exact (root_of_mem_bareCandidates hp).trans hfile
      · cases hp
  · cases hp

/-- Sources hold import expressions, and these lead from direct paths to direct paths. -/
theorem confines_isDirect {c : Context} (h : IsRooted c) :
    Confines c Path.IsDirect IsExpression where
  parent _ hp := isDirect_parent hp
  resolution := by
    rintro file expression target hfile ⟨segments, hsegments, rfl⟩ hresolved
    have hfirst := resolution_eq_first_candidate h.layout hsegments hresolved
    obtain ⟨p, hp, rfl⟩ := Option.map_eq_some_iff.mp hfirst.symm
    exact isDirect_normalize
      (root_of_mem_candidates h hfile.root (List.mem_of_find?_eq_some hp))
  imports hmem := (Summary.wellShaped_ofLines _).imports _ hmem
  reexports hget :=
    ((Summary.wellShaped_ofLines _).reexports _ (OrderedMap.mem_of_get? hget)).isExpression
  calls hcall := (isIdent_of_callOfWord? hcall).isExpression

end Session

end AsmNavigator
