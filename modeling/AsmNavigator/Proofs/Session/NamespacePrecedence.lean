import AsmNavigator.Proofs.Session.CachedResolver
import AsmNavigator.Proofs.Workspace.Listing
import AsmNavigator.Proofs.Workspace.ScriptBindings

/-! # Which crate a namespace belongs to

A crate that declares a namespace wins over all that only guess it. Of several crates that
declare it the last one in the order of names wins, of several that guess it the first one.
-/

namespace AsmNavigator.Workspace

open Config BuildScript

variable {w : World} {layout : Layout} {registry : Config.Registry} {crateDir : Path}

/-! ## One crate -/

def scriptText? (w : World) (layout : Layout) (crateDir : Path) : Option String :=
  (w.readText (crateDir / layout.buildScript)).toOption.map Text.kept

def declaredNamespace? (w : World) (layout : Layout) (namespaceName : String) (crateDir : Path) :
    Option NamespaceEntry :=
  ((scriptText? w layout crateDir).bind (declaredSubdir? · namespaceName)).map
    (⟨namespaceName, crateDir, ·⟩)

def guessedNamespace? (w : World) (layout : Layout) (registry : Config.Registry)
    (namespaceName : String) (crateDir : Path) : Option NamespaceEntry :=
  ((scriptText? w layout crateDir).bind
    (guessedSubdir? registry.excludedDirKeywords · namespaceName)).map
      (⟨namespaceName, crateDir, ·⟩)

theorem isEncodable_script (hcrate : crateDir.IsEncodable)
    (hscript : (Path.ofString layout.buildScript).IsEncodable) :
    (crateDir / layout.buildScript).IsEncodable := by
  rw [Path.isEncodable_iff] at hcrate hscript ⊢
  intro part hpart
  have hparts : part ∈ (crateDir.append (Path.ofString layout.buildScript)).parts := hpart
  unfold Path.append at hparts
  split at hparts
  · exact hscript part hparts
  · rcases List.mem_append.mp hparts with hin | hin
    · exact hcrate part hin
    · exact hscript part hin

theorem bindingsOf_eq (hscript : (crateDir / layout.buildScript).IsEncodable) :
    NamespaceTable.bindingsOf w layout registry crateDir =
      .ok ((scriptText? w layout crateDir).elim []
        (bindings registry.excludedDirKeywords)) := by
  unfold NamespaceTable.bindingsOf scriptText?
  cases hread : w.readText (crateDir / layout.buildScript) with
  | ok text =>
      simp only [Except.toOption, Option.map_some, Option.elim_some]
      rfl
  | error fault =>
      have hbytes : w.tree.readBytes w.env.cwd (crateDir / layout.buildScript) = .error fault := by
        rcases bind_eq_error.mp hread with hbytes | ⟨bytes, -, hdone⟩
        · exact hbytes
        · cases hdone
      obtain ⟨cause, rfl⟩ := FileTree.readBytes_os_of_isEncodable hscript hbytes
      rfl

theorem get?_addBinding (table : NamespaceTable) (binding : Binding) (namespaceName : String) :
    (NamespaceTable.addBinding crateDir table binding).get? namespaceName =
      if binding.namespaceName = namespaceName then
        if binding.declared then some ⟨namespaceName, crateDir, binding.subdir⟩
        else (table.get? namespaceName).or (some ⟨namespaceName, crateDir, binding.subdir⟩)
      else table.get? namespaceName := by
  unfold NamespaceTable.addBinding
  by_cases hname : binding.namespaceName = namespaceName
  · subst hname
    cases binding.declared <;> simp [OrderedMap.get?_insertIfNew]
  · cases binding.declared <;> simp [OrderedMap.get?_insertIfNew, hname]

/-- Of the bindings of a crate only the one of a namespace counts for it. -/
theorem get?_foldl_addBinding {found : List Binding}
    (hnodup : (found.map (·.namespaceName)).Nodup) (table : NamespaceTable)
    (namespaceName : String) :
    (found.foldl (NamespaceTable.addBinding crateDir) table).get? namespaceName =
      match found.find? (fun binding => binding.namespaceName = namespaceName) with
      | some binding => (NamespaceTable.addBinding crateDir table binding).get? namespaceName
      | none => table.get? namespaceName := by
  induction found generalizing table with
  | nil => rfl
  | cons binding rest ih =>
      obtain ⟨hnew, hrest⟩ := List.nodup_cons.mp hnodup
      rw [List.foldl_cons, ih hrest]
      by_cases hname : binding.namespaceName = namespaceName
      · have hnone : rest.find? (fun binding => binding.namespaceName = namespaceName) = none := by
          rw [List.find?_eq_none]
          intro other hother
          simp only [decide_eq_true_eq]
          intro heq
          exact hnew (List.mem_map.mpr ⟨other, hother, heq.trans hname.symm⟩)
        simp [hnone, hname]
      · cases hfind : rest.find? fun binding => binding.namespaceName = namespaceName with
        | none => simp [hname, hfind, get?_addBinding]
        | some other => simp [hname, hfind, get?_addBinding]

/-- What a crate declares replaces what was there, what it guesses comes after it. -/
theorem exists_addCrate (w : World) (registry : Config.Registry)
    (hscript : (crateDir / layout.buildScript).IsEncodable) (table : NamespaceTable) :
    ∃ next, NamespaceTable.addCrate w layout registry table crateDir = .ok next ∧
      ∀ namespaceName, next.get? namespaceName =
        (declaredNamespace? w layout namespaceName crateDir).or
          ((table.get? namespaceName).or
            (guessedNamespace? w layout registry namespaceName crateDir)) := by
  unfold NamespaceTable.addCrate
  rw [bindingsOf_eq hscript]
  refine ⟨_, rfl, fun namespaceName => ?_⟩
  unfold declaredNamespace? guessedNamespace?
  cases scriptText? w layout crateDir with
  | none => simp
  | some text =>
      simp only [Option.elim_some, Option.bind_some]
      rw [get?_foldl_addBinding (nodup_bindings _ text), find?_bindings]
      unfold binding? guessedSubdir?
      cases declaredSubdir? text namespaceName with
      | some subdir => simp [get?_addBinding]
      | none =>
          by_cases hcall : namespaceName ∈ assembleCalls text.toList
          · simp [hcall, get?_addBinding]
          · simp [hcall]

/-! ## All crates -/

/-- The last crate that declares a namespace comes first, then what was there, then the first
crate that guesses it. -/
theorem exists_foldlM_addCrate (w : World) (registry : Config.Registry) {crates : List Path}
    (hscripts : ∀ crateDir ∈ crates, (crateDir / layout.buildScript).IsEncodable)
    (table : NamespaceTable) :
    ∃ result, crates.foldlM (NamespaceTable.addCrate w layout registry) table = .ok result ∧
      ∀ namespaceName, result.get? namespaceName =
        (crates.reverse.findSome? (declaredNamespace? w layout namespaceName)).or
          ((table.get? namespaceName).or
            (crates.findSome? (guessedNamespace? w layout registry namespaceName))) := by
  induction crates generalizing table with
  | nil => exact ⟨table, rfl, fun namespaceName => by simp⟩
  | cons crateDir rest ih =>
      obtain ⟨next, hnext, hentries⟩ :=
        exists_addCrate w registry (hscripts crateDir (by simp)) table
      obtain ⟨result, hresult, hrest⟩ :=
        ih (fun crate hcrate => hscripts crate (List.mem_cons_of_mem _ hcrate)) next
      refine ⟨result, ?_, fun namespaceName => ?_⟩
      · rw [List.foldlM_cons, hnext]
        exact hresult
      · rw [hrest, hentries, List.reverse_cons, List.findSome?_append]
        simp only [List.findSome?_cons, List.findSome?_nil, Option.or_assoc]
        cases declaredNamespace? w layout namespaceName crateDir with
        | some entry => simp
        | none => cases guessedNamespace? w layout registry namespaceName crateDir <;> simp

end AsmNavigator.Workspace

namespace AsmNavigator.Session

open Config Workspace

/-- The precedence of namespaces. Where the crates of a workspace can be listed, a session
answers with a table in which a namespace belongs to the last crate that declares it, or
else to the first one that guesses it, in the order of the crates' names. -/
theorem namespaceTable_precedence {c : Context} {state : State} {root : Path}
    (hcaches : state.caches.Agree c fun _ => True)
    (hscript : (Path.ofString c.settings.layout.buildScript).IsEncodable)
    {names : List String} (hlist : c.world.list (root / c.settings.layout.cratesDir) = .ok names)
    (hasked : ∀ name ∈ names, ∃ holds,
      c.world.isDirectory ((root / c.settings.layout.cratesDir).below [name]) = .ok holds) :
    ∃ (table : NamespaceTable) (crates : List String),
      ((Query.namespaceTable root).run c state).1 = .ok table ∧
      crates.Pairwise (· ≤ ·) ∧
      crates.Perm (names.filter fun name =>
        c.world.isDirectory ((root / c.settings.layout.cratesDir).below [name]) = .ok true) ∧
      ∀ namespaceName, table.get? namespaceName =
        (crates.reverse.findSome? fun name =>
          declaredNamespace? c.world c.settings.layout namespaceName
            ((root / c.settings.layout.cratesDir).below [name])).or
        (crates.findSome? fun name =>
          guessedNamespace? c.world c.settings.layout c.settings.registry namespaceName
            ((root / c.settings.layout.cratesDir).below [name])) := by
  obtain ⟨crates, hcrates, hsorted, hperm⟩ := subdirectories_of_list hlist hasked
  have hscripts : ∀ crateDir ∈ crates.map fun name =>
      (root / c.settings.layout.cratesDir).below [name],
      (crateDir / c.settings.layout.buildScript).IsEncodable := fun crateDir hcrateDir =>
    isEncodable_script (expressible_of_mem_subdirectories hcrates hcrateDir).isEncodable hscript
  obtain ⟨table, htable, hentries⟩ :=
    exists_foldlM_addCrate c.world c.settings.registry hscripts .empty
  have hdiscovered : c.table root = .ok table := by
    unfold Context.table NamespaceTable.discover
    rw [hcrates]
    exact htable
  refine ⟨table, crates, ?_, hsorted, hperm, fun namespaceName => ?_⟩
  · rw [← hdiscovered]
    exact (Answers.namespaceTable True.intro state hcaches).1
  · rw [hentries, ← List.map_reverse, List.findSome?_map, List.findSome?_map]
    simp [Function.comp_def]

/-- Two crates with a build script each, not listed in order: the first one guesses a
namespace, the second one declares it. -/
def boundTwice : Context where
  world :=
    { tree := ⟨⟨[(["crates"], .directory), (["crates", "b"], .directory),
        (["crates", "b", "build.rs"], .file
          "const K_LIB_NAMESPACE: &str = \"miden::n\";\nconst ASM_K_DIR: &str = \"d\";\n".toUTF8),
        (["crates", "a"], .directory),
        (["crates", "a", "build.rs"], .file
          "assemble_library_from_dir(dir, \"miden::n\")?;\n".toUTF8)]⟩⟩
      env := ⟨.empty, ⟨.slash, []⟩, [], 0⟩ }
  settings := {}
  registryRoot? := none

/-- The crate that declares the namespace has it, although the other one comes first. -/
theorem namespaceTable_boundTwice :
    State.start.caches.Agree boundTwice (fun _ => True) ∧
      ∃ table, ((Query.namespaceTable ⟨.slash, []⟩).run boundTwice .start).1 = .ok table ∧
        table.get? "miden::n" = some ⟨"miden::n", ⟨.slash, ["crates", "b"]⟩, "d"⟩ := by
  have hagree : State.start.caches.Agree boundTwice (fun _ => True) := Caches.agree_empty _ _
  have hlist : boundTwice.world.list (Path.mk .slash [] / boundTwice.settings.layout.cratesDir) =
      .ok ["b", "a"] := by
    decide +kernel
  have hscript : (Path.ofString boundTwice.settings.layout.buildScript).IsEncodable :=
    ⟨by decide +kernel, by decide +kernel⟩
  have hdirectories : ∀ name ∈ ["b", "a"], boundTwice.world.isDirectory
      ((Path.mk .slash [] / boundTwice.settings.layout.cratesDir).below [name]) = .ok true := by
    decide +kernel
  obtain ⟨table, crates, hrun, hsorted, hperm, hentries⟩ :=
    namespaceTable_precedence hagree hscript hlist fun name hname => ⟨true, hdirectories name hname⟩
  have hcrates : crates = ["a", "b"] := by
    rw [List.filter_eq_self.mpr fun name hname => by simpa using hdirectories name hname] at hperm
    exact List.Perm.eq_of_pairwise (fun _ _ _ _ => String.le_antisymm) hsorted (by decide)
      (hperm.trans (List.Perm.swap "a" "b" []))
  refine ⟨hagree, table, hrun, ?_⟩
  rw [hentries, hcrates]
  decide +kernel

end AsmNavigator.Session
