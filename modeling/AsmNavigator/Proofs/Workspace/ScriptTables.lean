import AsmNavigator.Proofs.Data.Outcome
import AsmNavigator.Proofs.Files.Edit
import AsmNavigator.Proofs.Files.Refusal
import AsmNavigator.Workspace.Namespaces

/-! # Namespace tables and build scripts

The table of a workspace depends on the build scripts of its crates and on nothing else:
a crate without one adds nothing, and the crates are taken in the order of their names,
whatever order the tree lists them in. A listing is given up as a whole where a path is
over-long; no file that can be written or removed decides about that.
-/

namespace AsmNavigator

namespace FileTree

variable {tree tree' : FileTree} {cwd p : Path}

/-! ## Subdirectories -/

/-- A child of a directory in a sound tree is told to be a directory or not, or refused. -/
theorem IsPlain.isDirectory_eq (h : tree.IsPlain) (hp : p.IsDirect) (hexpressible : p.Expressible)
    {entry : Entry} (hnode : tree.entryAt? p.parts = some entry) :
    tree.isDirectory cwd p = .ok entry.isDirectory := by
  have hstat : tree.stat cwd p = .ok entry := (h.stat_ok_iff hp).mpr ⟨hexpressible, hnode⟩
  unfold isDirectory probe
  rw [hstat]
  cases entry <;> rfl

end FileTree

/-! ## What is listed -/

namespace Workspace

open Config BuildScript

/-- A directory is not listed at all if the path of a child is over-long. -/
def IsBlocked (tree : FileTree) (base : Path) : Prop :=
  ∃ name, (base.below [name]).IsTooLong ∧ (tree.entryAt? (base.parts ++ [name])).isSome

structure IsListing (tree : FileTree) (base : Path) (names : List String) : Prop where
  sorted : names.Pairwise (· ≤ ·)
  nodup : names.Nodup
  blocked : IsBlocked tree base → names = []
  members : ¬ IsBlocked tree base → ∀ name, name ∈ names ↔
    (base.below [name]).Expressible ∧ tree.entryAt? (base.parts ++ [name]) = some .directory

variable {w : World} {base : Path}

theorem isListing_of_not_directory (h : w.tree.IsPlain)
    (hbase : w.tree.entryAt? base.parts ≠ some .directory) : IsListing w.tree base [] := by
  have hnone : ∀ name, w.tree.entryAt? (base.parts ++ [name]) = none := by
    intro name
    cases hnode : w.tree.entryAt? (base.parts ++ [name]) with
    | none => rfl
    | some entry =>
        have hsome : (w.tree.entryAt? (base.parts ++ [name])).isSome := by rw [hnode]; rfl
        exact absurd (h.directory_above_entry (by simp) hsome) hbase
  refine ⟨.nil, List.nodup_nil, fun _ => rfl, ?_⟩
  intro _ name
  simp [hnone name]

theorem isListing_mergeSort (h : w.tree.IsPlain) (hblocked : ¬ IsBlocked w.tree base)
    {test : String → Bool}
    (htest : ∀ name ∈ w.tree.namesIn base.parts, test name = true ↔
      (base.below [name]).Expressible ∧
        w.tree.entryAt? (base.parts ++ [name]) = some .directory) :
    IsListing w.tree base
      (((w.tree.namesIn base.parts).filter test).mergeSort (· ≤ ·)) := by
  refine ⟨?_, ?_, fun hyes => absurd hyes hblocked, ?_⟩
  · have hsorted : (((w.tree.namesIn base.parts).filter test).mergeSort (· ≤ ·)).Pairwise
        fun a b : String => decide (a ≤ b) :=
      List.pairwise_mergeSort (by simpa using fun a b c => String.le_trans)
        (by simpa using String.le_total) _
    simpa using hsorted
  · exact (List.mergeSort_perm _ _).nodup_iff.mpr ((h.nodup_namesIn _).filter _)
  · intro _ name
    rw [List.mem_mergeSort, List.mem_filter]
    constructor
    · rintro ⟨hmem, htrue⟩
      exact (htest name hmem).mp htrue
    · rintro ⟨hexpressible, hnode⟩
      have hmem : name ∈ w.tree.namesIn base.parts :=
        h.linkFree.mem_namesIn.mpr (by simp [hnode])
      exact ⟨hmem, (htest name hmem).mpr ⟨hexpressible, hnode⟩⟩

def holdsDirectory (w : World) (p : Path) : Bool :=
  match w.isDirectory p with
  | .ok holds => holds
  | .error _ => false

/-- What is told about a child: whether it is a directory, or that its path is over-long. -/
theorem isDirectory_child (h : w.tree.IsPlain) (hbase : base.IsDirect) {name : String}
    (hname : name ∈ w.tree.namesIn base.parts) :
    ((base.below [name]).IsTooLong ∧
      ∃ text, w.isDirectory (base.below [name]) = .error (.os .nameTooLong text)) ∨
    ∃ holds, w.isDirectory (base.below [name]) = .ok holds ∧ (holds = true ↔
      (base.below [name]).Expressible ∧
        w.tree.entryAt? (base.parts ++ [name]) = some .directory) := by
  have hsome := h.linkFree.mem_namesIn.mp hname
  have hup : ".." ∉ [name] := by
    intro hmem
    exact (h.names_of_entry hsome ".." (List.mem_append_right _ hmem)).1 rfl
  by_cases hlong : (base.below [name]).IsTooLong
  · exact .inl ⟨hlong, _, FileTree.isDirectory_of_isTooLong hlong⟩
  · right
    by_cases hexpressible : (base.below [name]).Expressible
    · obtain ⟨entry, hentry⟩ := Option.isSome_iff_exists.mp hsome
      refine ⟨_, h.isDirectory_eq (hbase.below hup) hexpressible hentry, ?_⟩
      rw [hentry]
      cases entry <;> simp [Entry.isDirectory, hexpressible]
    · refine ⟨_, FileTree.isDirectory_of_not_expressible hexpressible hlong, ?_⟩
      simp [hexpressible]

/-- One entry under an over-long path spoils the listing of all. -/
theorem filterM_isDirectory_of_isBlocked (hblocked : IsBlocked w.tree base) :
    ∃ cause text, (w.tree.namesIn base.parts).filterM
      (fun name => w.isDirectory (base / Path.relative [name])) = .error (.os cause text) := by
  obtain ⟨name, hlong, hsome⟩ := hblocked
  obtain ⟨refusal, hfilter⟩ := exists_filterM_error
    (f := fun name => w.isDirectory (base / Path.relative [name]))
    (FileTree.mem_namesIn.mpr (FileTree.mem_keys_of_entryAt? (by simp) hsome))
    (FileTree.isDirectory_of_isTooLong hlong)
  obtain ⟨other, -, hfault⟩ := exists_of_filterM_error hfilter
  obtain ⟨rfl, -⟩ := FileTree.isOverLong_of_isDirectory hfault
  exact ⟨_, _, hfilter⟩

/-- A directory that can be looked up is listed, blocked listings being empty. -/
theorem subdirectories_eq (h : w.tree.IsPlain) (hbase : base.IsDirect)
    (hexpressible : base.Expressible) :
    ∃ names, subdirectories w base = .ok (names.map fun name => base.below [name]) ∧
      IsListing w.tree base names := by
  unfold subdirectories
  cases hlist : w.list base with
  | error fault =>
      obtain ⟨cause, rfl⟩ := FileTree.list_refused hexpressible hlist
      refine ⟨[], rfl, isListing_of_not_directory h ?_⟩
      intro hdirectory
      have hok : w.list base = .ok (w.tree.namesIn base.parts) :=
        (h.list_ok_iff hbase).mpr ⟨hexpressible, hdirectory, rfl⟩
      rw [hok] at hlist
      cases hlist
  | ok names =>
      obtain ⟨-, -, rfl⟩ := (h.list_ok_iff hbase).mp hlist
      by_cases hblocked : IsBlocked w.tree base
      · obtain ⟨cause, text, hfilter⟩ := filterM_isDirectory_of_isBlocked hblocked
        refine ⟨[], ?_, .nil, List.nodup_nil, fun _ => rfl, fun hno => absurd hblocked hno⟩
        simp only [bind, Except.bind, hfilter]
        rfl
      · have hchild : ∀ name ∈ w.tree.namesIn base.parts,
            w.isDirectory (base / Path.relative [name]) =
              .ok (holdsDirectory w (base.below [name])) ∧
            (holdsDirectory w (base.below [name]) = true ↔ (base.below [name]).Expressible ∧
              w.tree.entryAt? (base.parts ++ [name]) = some .directory) := by
          intro name hname
          rcases isDirectory_child h hbase hname with ⟨hlong, -⟩ | ⟨holds, hok, hiff⟩
          · exact absurd ⟨name, hlong, h.linkFree.mem_namesIn.mp hname⟩ hblocked
          · unfold holdsDirectory
            rw [Path.div_relative, hok]
            exact ⟨rfl, hiff⟩
        refine ⟨_, ?_, isListing_mergeSort h hblocked fun name hname => (hchild name hname).2⟩
        simp only [bind, Except.bind, filterM_ok fun name hname => (hchild name hname).1]
        rfl

/-! ## Build scripts -/

variable {tree tree' : FileTree} {env : Environment} {layout : Layout} {registry : Registry}

/-- The bindings of a crate depend on its build script only. -/
theorem bindingsOf_congr (h : tree.IsPlain) (h' : tree'.IsPlain) {crateDir script : Path}
    (hscript : crateDir / layout.buildScript = script) (hdirect : script.IsDirect)
    (hfile : tree'.fileAt script.parts = tree.fileAt script.parts) :
    NamespaceTable.bindingsOf ⟨tree', env⟩ layout registry crateDir =
      NamespaceTable.bindingsOf ⟨tree, env⟩ layout registry crateDir := by
  unfold NamespaceTable.bindingsOf World.readText FileTree.readText
  rw [hscript]
  simp only
  by_cases hexpressible : script.Expressible
  · cases hbytes : tree.fileAt script.parts with
    | some bytes =>
        rw [(h.readBytes_ok_iff hdirect).mpr ⟨hexpressible, hbytes⟩,
          (h'.readBytes_ok_iff hdirect).mpr ⟨hexpressible, hfile.trans hbytes⟩]
    | none =>
        cases hread : tree.readBytes env.cwd script with
        | ok bytes =>
            rw [h.readBytes_ok_iff hdirect, hbytes] at hread
            cases hread.2
        | error fault =>
            cases hread' : tree'.readBytes env.cwd script with
            | ok bytes =>
                rw [h'.readBytes_ok_iff hdirect, hfile, hbytes] at hread'
                cases hread'.2
            | error fault' =>
                obtain ⟨cause, rfl⟩ := FileTree.readBytes_refused hexpressible hread
                obtain ⟨cause', rfl⟩ := FileTree.readBytes_refused hexpressible hread'
                rfl
  · have hstat : tree'.stat env.cwd script = tree.stat env.cwd script :=
      FileTree.stat_of_not_expressible hexpressible
    unfold FileTree.readBytes
    rw [hstat]

/-- A crate without a build script binds nothing. -/
theorem bindingsOf_of_no_script (h : tree.IsPlain) {crateDir script : Path}
    (hscript : crateDir / layout.buildScript = script) (hdirect : script.IsDirect)
    (hlookup : script.Expressible ∨ script.IsTooLong) (hnone : tree.fileAt script.parts = none) :
    NamespaceTable.bindingsOf ⟨tree, env⟩ layout registry crateDir = .ok [] := by
  unfold NamespaceTable.bindingsOf World.readText FileTree.readText
  rw [hscript]
  simp only
  rcases hlookup with hexpressible | hlong
  · cases hread : tree.readBytes env.cwd script with
    | ok bytes =>
        rw [h.readBytes_ok_iff hdirect, hnone] at hread
        cases hread.2
    | error fault =>
        obtain ⟨cause, rfl⟩ := FileTree.readBytes_refused hexpressible hread
        rfl
  · unfold FileTree.readBytes FileTree.stat
    rw [FileTree.locate_of_isTooLong hlong]
    rfl

/-! ## Tables -/

/-- The build script is an ordinary name in every crate. -/
structure IsPlainScript (layout : Layout) : Prop where
  cratesDir : IsPlainName layout.cratesDir
  buildScript : IsPlainName layout.buildScript
  chars : ∀ ch ∈ layout.buildScript.toList, Text.isNameChar ch = true ∧ ch ≠ '\x00'

def hasScript (tree : FileTree) (layout : Layout) (base : Path) (name : String) : Bool :=
  (tree.fileAt (base.parts ++ [name, layout.buildScript])).isSome

/-- A build script shows that its crate is a directory. -/
theorem IsListing.mem_filter_hasScript (h : tree.IsPlain) {base : Path} {names : List String}
    (hnames : IsListing tree base names) (hblocked : ¬ IsBlocked tree base) {name : String} :
    name ∈ names.filter (hasScript tree layout base) ↔
      (base.below [name]).Expressible ∧ hasScript tree layout base name = true := by
  rw [List.mem_filter, hnames.members hblocked]
  constructor
  · rintro ⟨⟨hexpressible, -⟩, hscript⟩
    exact ⟨hexpressible, hscript⟩
  · rintro ⟨hexpressible, hscript⟩
    refine ⟨⟨hexpressible, ?_⟩, hscript⟩
    obtain ⟨bytes, hbytes⟩ := Option.isSome_iff_exists.mp hscript
    rw [FileTree.fileAt_eq_some_iff] at hbytes
    apply h.directory_above_entry (List.cons_ne_nil layout.buildScript [])
    simp [hbytes]

/-- Crates with build scripts are the same in trees with the same build scripts, whichever
other directories stand beside them. -/
theorem filter_hasScript_eq (h : tree.IsPlain) (h' : tree'.IsPlain) {base : Path}
    (hscripts : ∀ name, hasScript tree' layout base name = hasScript tree layout base name)
    (hblocked : IsBlocked tree' base ↔ IsBlocked tree base) {names names' : List String}
    (hnames : IsListing tree base names) (hnames' : IsListing tree' base names') :
    names'.filter (hasScript tree' layout base) = names.filter (hasScript tree layout base) := by
  by_cases hyes : IsBlocked tree base
  · rw [hnames.blocked hyes, hnames'.blocked (hblocked.mpr hyes)]
    rfl
  · have hno : ¬ IsBlocked tree' base := fun hyes' => hyes (hblocked.mp hyes')
    refine List.Perm.eq_of_pairwise (fun a b _ _ => String.le_antisymm) (hnames'.sorted.filter _)
      (hnames.sorted.filter _) ?_
    rw [List.perm_ext_iff_of_nodup (hnames'.nodup.filter _) (hnames.nodup.filter _)]
    intro name
    rw [hnames'.mem_filter_hasScript h' hno, hnames.mem_filter_hasScript h hyes, hscripts]

theorem isBlocked_congr {base : Path} (hbase : base.IsDirect)
    (hunreachable : ∀ {place}, ¬ (Path.mk .slash place).Expressible →
      tree'.entryAt? place = tree.entryAt? place) : IsBlocked tree' base ↔ IsBlocked tree base := by
  have hsame : ∀ name, (base.below [name]).IsTooLong →
      tree'.entryAt? (base.parts ++ [name]) = tree.entryAt? (base.parts ++ [name]) := by
    intro name hlong
    have hplace : base.below [name] = Path.mk .slash (base.parts ++ [name]) := by
      rw [← hbase.root]
      rfl
    exact hunreachable (hplace ▸ hlong.not_expressible)
  constructor
  · rintro ⟨name, hlong, hsome⟩
    exact ⟨name, hlong, hsame name hlong ▸ hsome⟩
  · rintro ⟨name, hlong, hsome⟩
    exact ⟨name, hlong, hsame name hlong ▸ hsome⟩

/-- What is known of a crate that is listed, and of its build script. -/
theorem IsListing.crate (h : tree.IsPlain) (hlayout : IsPlainScript layout) {base : Path}
    (hbase : base.IsDirect) {names : List String} (hnames : IsListing tree base names)
    {name : String} (hname : name ∈ names) :
    ((base.below [name]).below [layout.buildScript]).IsDirect ∧
      (base.below [name]).Expressible := by
  have hblocked : ¬ IsBlocked tree base := by
    intro hyes
    rw [hnames.blocked hyes] at hname
    cases hname
  obtain ⟨hexpressible, hnode⟩ := (hnames.members hblocked name).mp hname
  have hup : ".." ∉ [name, layout.buildScript] := by
    have hsome : (tree.entryAt? (base.parts ++ [name])).isSome := by rw [hnode]; rfl
    have hchild := (h.names_of_entry hsome name (by simp)).1
    simp [Ne.symm hchild, Ne.symm hlayout.buildScript.notUp]
  rw [Path.below_below]
  exact ⟨hbase.below hup, hexpressible⟩

/-- Crates without build scripts can be left out. -/
theorem foldlM_addCrate (h : tree.IsPlain) (hlayout : IsPlainScript layout) {base : Path}
    (hbase : base.IsDirect) {names : List String} (hnames : IsListing tree base names)
    (table : NamespaceTable) :
    names.foldlM (fun table name =>
        NamespaceTable.addCrate ⟨tree, env⟩ layout registry table (base.below [name])) table =
      (names.filter (hasScript tree layout base)).foldlM (fun table name =>
        NamespaceTable.addCrate ⟨tree, env⟩ layout registry table (base.below [name])) table := by
  refine foldlM_filter ?_ table
  intro name hname hnone acc
  obtain ⟨hdirect, hexpressible⟩ := hnames.crate h hlayout hbase hname
  have hnothing : NamespaceTable.bindingsOf ⟨tree, env⟩ layout registry (base.below [name]) =
      .ok [] := by
    refine bindingsOf_of_no_script h (Path.div_plain _ hlayout.buildScript) hdirect
      (hexpressible.below hlayout.chars) ?_
    simpa [hasScript] using hnone
  unfold NamespaceTable.addCrate
  rw [hnothing]
  rfl

theorem list_of_not_expressible (tree tree' : FileTree) (env : Environment) {p : Path}
    (h : ¬ p.Expressible) : ∃ fault, (World.mk tree env).list p = .error fault ∧
      (World.mk tree' env).list p = .error fault := by
  cases hplace : tree.locate env.cwd p with
  | ok place => exact absurd (FileTree.locate_ok_iff.mp hplace).1 h
  | error fault =>
      have hplace' : tree'.locate env.cwd p = .error fault :=
        (FileTree.locate_of_not_expressible h).trans hplace
      refine ⟨fault, ?_, ?_⟩
      · simp [World.list, FileTree.list, hplace, bind, Except.bind]
      · simp [World.list, FileTree.list, hplace', bind, Except.bind]

/-- The table of a workspace depends on the build scripts of its crates only. -/
theorem discover_congr (h : tree.IsPlain) (h' : tree'.IsPlain) (hlayout : IsPlainScript layout)
    {root : Path} (hroot : root.IsDirect)
    (hscripts : ∀ {place}, place.getLast? = some layout.buildScript →
      tree'.fileAt place = tree.fileAt place)
    (hunreachable : ∀ {place}, ¬ (Path.mk .slash place).Expressible →
      tree'.entryAt? place = tree.entryAt? place) :
    NamespaceTable.discover ⟨tree', env⟩ layout registry root =
      NamespaceTable.discover ⟨tree, env⟩ layout registry root := by
  have hbase : (root.below [layout.cratesDir]).IsDirect := by
    apply hroot.below
    simpa using Ne.symm hlayout.cratesDir.notUp
  unfold NamespaceTable.discover
  rw [Path.div_plain _ hlayout.cratesDir]
  generalize root.below [layout.cratesDir] = base at hbase
  by_cases hexpressible : base.Expressible
  · obtain ⟨names, hlisted, hnames⟩ := subdirectories_eq (w := ⟨tree, env⟩) h hbase hexpressible
    obtain ⟨names', hlisted', hnames'⟩ :=
      subdirectories_eq (w := ⟨tree', env⟩) h' hbase hexpressible
    have hsame : ∀ name, hasScript tree' layout base name = hasScript tree layout base name := by
      intro name
      unfold hasScript
      rw [hscripts (by simp)]
    have hfilter :=
      filter_hasScript_eq h h' hsame (isBlocked_congr hbase hunreachable) hnames hnames'
    rw [hlisted, hlisted']
    simp only [bind, Except.bind, List.foldlM_map]
    rw [foldlM_addCrate h hlayout hbase hnames, foldlM_addCrate h' hlayout hbase hnames', hfilter]
    refine foldlM_congr ?_ _
    intro name hname acc
    have hdirect := (hnames.crate h hlayout hbase (List.mem_filter.mp hname).1).1
    unfold NamespaceTable.addCrate
    rw [bindingsOf_congr h h' (Path.div_plain _ hlayout.buildScript) hdirect (hscripts (by simp))]
  · obtain ⟨fault, hlist, hlist'⟩ := list_of_not_expressible tree tree' env hexpressible
    unfold subdirectories
    rw [hlist, hlist']
    cases fault <;> simp only [bind, Except.bind, orOnRefusal, List.foldlM_nil]

end Workspace

end AsmNavigator
