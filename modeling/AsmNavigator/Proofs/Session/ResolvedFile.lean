import AsmNavigator.Proofs.Registry.Versions
import AsmNavigator.Proofs.Session.Candidates
import AsmNavigator.Proofs.Workspace.Listing
import AsmNavigator.Proofs.Workspace.TableEntries

/-! # What the rules for imports give

Every module that is found is a module below some directory, and every directory is
reached from the importing file or from the root of the registry, by going up, by names and
by entries of directories. `Leads` collects what has to be known of these steps so that
something holds of every module, under every layout and for every expression, plain or not.

A resolved import is the normal form of a path at which a rule has seen a regular file. The
normal form leads to the same file, unless the path meets a symbolic link and goes up again.
-/

namespace AsmNavigator.Session

open Config Source Workspace

/-- Whatever an outcome holds satisfies `P`; it may also hold nothing or be a fault. -/
def Gives (P : β → Prop) (outcome : Except Fault (Option β)) : Prop :=
  ∀ b, outcome = .ok (some b) → P b

namespace Gives

variable {α β : Type} {P : β → Prop}

theorem nothing : Gives P (.ok none) := by
  intro b h
  cases h

theorem found {b : β} (h : P b) : Gives P (.ok (some b)) := by
  intro b' h'
  cases h'
  exact h

theorem weaken {Q : β → Prop} {outcome : Except Fault (Option β)} (h : Gives P outcome)
    (hPQ : ∀ b, P b → Q b) : Gives Q outcome := fun b hb => hPQ b (h b hb)

theorem bind {x : Except Fault α} {f : α → Except Fault (Option β)}
    (h : ∀ a, x = .ok a → Gives P (f a)) : Gives P (x >>= f) := by
  intro b hb
  cases x with
  | error fault => cases hb
  | ok a => exact h a rfl b hb

theorem orElse {first second : Except Fault (Option β)} (hfirst : Gives P first)
    (hsecond : Gives P second) : Gives P (Session.orElse first second) := by
  refine bind fun found? hfound => ?_
  cases found? with
  | none => exact hsecond
  | some b => exact found (hfirst b hfound)

theorem firstHit_mem {search : α → Except Fault (Option β)} {items : List α}
    (h : ∀ a ∈ items, Gives P (search a)) : Gives P (Workspace.firstHit search items) := by
  induction items with
  | nil => exact nothing
  | cons a rest ih =>
      refine bind fun found? hfound => ?_
      cases found? with
      | none => exact ih fun a' ha' => h a' (List.mem_cons_of_mem _ ha')
      | some b => exact found (h a (by simp) b hfound)

theorem firstHit {search : α → Except Fault (Option β)} (h : ∀ a, Gives P (search a))
    (items : List α) : Gives P (Workspace.firstHit search items) :=
  firstHit_mem fun a _ => h a

end Gives

/-- A module below a directory is its file or the index file of its directory. -/
theorem path_of_findModule {w : World} {extension indexFile subPath : String} {base path : Path}
    (h : findModule w extension indexFile base subPath = .ok (some path)) :
    path = base / subPath ∨ path = base / moduleStem extension subPath / indexFile := by
  unfold findModule at h
  simp only at h
  generalize base / subPath = direct at h ⊢
  generalize base / moduleStem extension subPath / indexFile = indexed at h ⊢
  rcases hdirect : w.isFile direct with fault | _ | _
  · rw [hdirect] at h
    cases h
  · rw [hdirect] at h
    rcases hindexed : w.isFile indexed with fault | _ | _
    all_goals
      rw [hindexed] at h
      cases h
    exact .inr rfl
  · rw [hdirect] at h
    cases h
    exact .inl rfl

theorem exists_root_of_registryModule {c : Context} {package subPath : String} {path : Path}
    (h : c.registryModule package subPath = .ok (some path)) :
    ∃ root, Registry.root c.world c.registryRoot? = .ok root := by
  rw [registryModule_eq] at h
  obtain ⟨root, hroot, -⟩ := bind_eq_ok.mp h
  exact ⟨root, hroot⟩

/-! ## The rules -/

/-- From directories with `A`, names and entries lead to directories with `A`, and modules
below them satisfy `P`. -/
structure Leads (c : Context) (A P : Path → Prop) : Prop where
  div : ∀ {p}, A p → ∀ text : String, A (p / text)
  entry : ∀ {p names name}, A p → c.world.list p = .ok names → name ∈ names → A (p.below [name])
  modules : ∀ {base}, A base → ∀ subPath, Gives P (c.moduleBelow base subPath)

namespace Leads

variable {c : Context} {A P : Path → Prop}

/-- A module is found under names as well. -/
theorem of_names (hdiv : ∀ {p}, A p → ∀ text : String, A (p / text))
    (hentry : ∀ {p names name}, A p → c.world.list p = .ok names → name ∈ names →
      A (p.below [name])) : Leads c A A where
  div := hdiv
  entry := hentry
  modules {base} hbase subPath path hpath := by
    rcases path_of_findModule hpath with rfl | rfl
    · exact hdiv hbase subPath
    · exact hdiv (hdiv hbase _) _

theorem weaken {Q : Path → Prop} (h : Leads c A P) (hPQ : ∀ p, P p → Q p) : Leads c A Q where
  div := h.div
  entry := h.entry
  modules hbase subPath := (h.modules hbase subPath).weaken hPQ

variable (h : Leads c A P)
include h

theorem of_mem_subdirectories {p d : Path} (hp : A p) {found : List Path}
    (hfound : subdirectories c.world p = .ok found) (hd : d ∈ found) : A d := by
  obtain ⟨names, name, hlist, hname, rfl, -⟩ := exists_of_mem_subdirectories hfound hd
  exact h.entry hp hlist hname

theorem moduleInSubdirectories {library : Path} (hlibrary : A library) (subPath : String) :
    Gives P (c.moduleInSubdirectories library subPath) :=
  Gives.bind fun _ hdirectories => Gives.firstHit_mem fun _ hdirectory =>
    h.modules (h.of_mem_subdirectories hlibrary hdirectories hdirectory) subPath

theorem moduleInWorkspace {root : Path} (hroot : A root) (name subPath : String) :
    Gives P (c.moduleInWorkspace root name subPath) := by
  refine Gives.bind fun table htable => Gives.orElse ?_ ?_
  · have hentries : EntriesSatisfy (fun crateDir _ => A crateDir) table :=
      EntriesSatisfy.discover (fun _ hcrates _ hcrate _ _ _ _ =>
        h.of_mem_subdirectories (h.div hroot _) hcrates hcrate) htable
    cases hlookup : table.lookup? (NamespaceTable.family ++ name) with
    | none => exact Gives.nothing
    | some entry =>
        have hcrate : A entry.crateDir := hentries.lookup? hlookup
        exact (h.modules (h.div (h.div hcrate _) _) subPath).orElse
          (h.moduleInSubdirectories (h.div hcrate _) subPath)
  · refine Gives.bind fun crates hcrates => Gives.firstHit_mem fun crateDir hcrateDir => ?_
    have hcrate : A crateDir := h.of_mem_subdirectories (h.div hroot _) hcrates hcrateDir
    exact (h.modules (h.div (h.div hcrate _) _) subPath).orElse
      (h.moduleInSubdirectories (h.div hcrate _) subPath)

theorem packageModule {sources : Path} (hsources : A sources) (package subPath : String) :
    Gives (fun hit => P hit.2) (c.packageModule package subPath sources) := by
  refine Gives.bind fun indexes hindexes => Gives.firstHit_mem fun indexDir hindexDir => ?_
  have hindex : A indexDir := h.of_mem_subdirectories hsources hindexes hindexDir
  refine Gives.bind fun versions hversions => Gives.firstHit_mem fun version hversion => ?_
  obtain ⟨names, hlist, hname, -⟩ := Registry.holdsVersion_of_mem hversions hversion
  refine Gives.bind fun found? hfound => ?_
  cases found? with
  | none => exact Gives.nothing
  | some path =>
      have hlibrary := h.div (h.entry hindex hlist hname) c.settings.layout.libraryDir
      exact Gives.found (h.modules hlibrary subPath path hfound)

theorem registryModule
    (hsources : ∀ root, Registry.root c.world c.registryRoot? = .ok root → A (sourcesOf root))
    (package subPath : String) : Gives P (c.registryModule package subPath) := by
  intro path hpath
  obtain ⟨root, hroot⟩ := exists_root_of_registryModule hpath
  rw [registryModule_of_root hroot] at hpath
  refine Gives.bind (fun isDirectory _ => ?_) path hpath
  cases isDirectory with
  | false => exact Gives.nothing
  | true =>
      refine Gives.bind fun hit? hhit => ?_
      cases hit? with
      | none => exact Gives.nothing
      | some hit =>
          exact Gives.found (h.packageModule (hsources root hroot) package subPath hit hhit)

variable (hup : ∀ p, A p → A p.parent) {file : Path} (hfile : A file)
include hup hfile

theorem namespaced (hregistry : ∀ package subPath, Gives P (c.registryModule package subPath))
    (name : String) (segments : List String) : Gives P (c.namespaced file name segments) := by
  unfold Context.namespaced
  cases modulePath? c.settings.layout.moduleExtension segments with
  | none => exact Gives.nothing
  | some subPath =>
      simp only
      cases c.externalPackage? name with
      | some package => exact hregistry package subPath
      | none =>
          refine Gives.orElse ?_ (Gives.orElse ?_
            ((hregistry _ subPath).orElse (hregistry _ subPath)))
          · refine Gives.bind fun root? hroot => ?_
            cases root? with
            | none => exact Gives.nothing
            | some root =>
                have hrootA : A root := workspaceRoot_confined hup hfile hroot
                exact h.moduleInWorkspace hrootA name subPath
          · refine Gives.bind fun root? hroot => ?_
            cases root? with
            | none => exact Gives.nothing
            | some root =>
                have hrootA : A root :=
                  confined_of_mem_ancestors hup (hup file hfile) (holds_of_firstDirectory hroot).1
                exact h.modules (h.div (h.div hrootA _) name) subPath

theorem aliased (segments : List String) : Gives P (c.aliased file segments) := by
  have hdirectory : ∀ fileName {directory}, A directory →
      Gives P (c.moduleIfDirectory fileName directory) := by
    intro fileName directory hA
    refine Gives.bind fun isDirectory _ => ?_
    cases isDirectory with
    | false => exact Gives.nothing
    | true => exact h.modules hA fileName
  unfold Context.aliased
  cases segments.getLast? with
  | none => exact Gives.nothing
  | some last =>
      refine Gives.firstHit_mem fun directory hmem => ?_
      have hA : A directory := confined_of_mem_ancestors hup (hup file hfile) hmem
      exact (hdirectory _ (h.div hA _)).orElse (hdirectory _ (h.div (hup directory hA) _))

theorem bare (name : String) : Gives P (c.bare file name) := by
  have hparent : A file.parent := hup file hfile
  have hbases : ∀ base ∈ c.bareBases file, A base := by
    intro base hbase
    simp only [Context.bareBases, List.mem_cons, List.not_mem_nil, or_false] at hbase
    rcases hbase with rfl | rfl | rfl | rfl
    · exact hparent
    · exact h.div hparent _
    · exact hup _ hparent
    · exact h.div (hup _ hparent) _
  exact Gives.firstHit_mem fun base hbase =>
    h.modules (hbases base hbase) _

/-- The module of a file that lies in the set satisfies what the paths of the set and the
modules of the registry satisfy. -/
theorem byRule (hregistry : ∀ package subPath, Gives P (c.registryModule package subPath))
    (rule : ImportRule) : Gives P (c.byRule file rule) := by
  cases rule with
  | namespaced name rest => exact h.namespaced hup hfile hregistry name rest
  | stdlib rest =>
      show Gives P (c.stdlib rest)
      unfold Context.stdlib
      cases modulePath? c.settings.layout.moduleExtension rest with
      | none => exact Gives.nothing
      | some subPath => exact hregistry _ subPath
  | «alias» rest => exact h.aliased hup hfile rest
  | bare name => exact h.bare hup hfile name
  | unsupported => exact Gives.nothing

end Leads

/-! ## Regular files -/

namespace Context

variable {c : Context}

def IsFile (c : Context) (p : Path) : Prop := c.world.isFile p = .ok true

/-- The normal form of a path at which there is a regular file. The file is found there too,
unless the path leaves a symbolic link by a `..`. -/
def IsFoundAs (c : Context) (p : Path) : Prop :=
  ∃ hit, c.IsFile hit ∧ hit.normalize = p ∧
    (c.IsFile p ∨ c.world.tree.LeavesLink c.world.env.cwd hit)

theorem IsFile.isFoundAs {c : Context} {hit : Path} (h : c.IsFile hit) :
    c.IsFoundAs hit.normalize := by
  refine ⟨hit, h, rfl, ?_⟩
  by_cases hlinks : c.world.tree.LeavesLink c.world.env.cwd hit
  · exact .inr hlinks
  · exact .inl (FileTree.isFile_normalize h hlinks)

theorem gives_findModule (extension indexFile : String) (base : Path) (subPath : String) :
    Gives c.IsFile (findModule c.world extension indexFile base subPath) := by
  refine Gives.bind fun direct hdirect => ?_
  cases direct with
  | true => exact Gives.found hdirect
  | false =>
      refine Gives.bind fun indexed hindexed => ?_
      cases indexed with
      | true => exact Gives.found hindexed
      | false => exact Gives.nothing

theorem leads_isFile : Leads c (fun _ => True) c.IsFile where
  div _ _ := trivial
  entry _ _ _ := trivial
  modules {base} _ subPath := gives_findModule _ _ base subPath

theorem gives_resolution (file : Path) (expression : String) :
    Gives c.IsFoundAs (c.resolution file expression) := by
  have hrule : Gives c.IsFile (c.byRule file (ImportRule.ofExpression expression)) :=
    leads_isFile.byRule (fun _ _ => trivial) trivial
      (leads_isFile.registryModule fun _ _ => trivial) _
  refine Gives.bind fun found? hfound => ?_
  cases found? with
  | none => exact Gives.nothing
  | some path => exact Gives.found (hrule path hfound).isFoundAs

end Context

end AsmNavigator.Session
