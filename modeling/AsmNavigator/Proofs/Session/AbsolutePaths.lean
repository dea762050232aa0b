import AsmNavigator.Proofs.Files.Home
import AsmNavigator.Proofs.Session.ResolvedFile
import AsmNavigator.Proofs.Session.Retention

/-! # Resolved modules have absolute paths

A session asks for modules of files with absolute paths, and builds the paths of modules
from those of files, from names and from the root of the registry. So all paths of modules
are absolute, unless the root of the registry is relative: nothing makes the configured
root or that of the environment absolute, and a module that is found below it has a
relative path.
-/

namespace AsmNavigator

namespace Path

/-- An absolute path without dots among its components, single or double. -/
structure IsCanonical (p : Path) : Prop where
  absolute : p.isAbsolute = true
  noDot : "." ∉ p.parts
  noUp : ".." ∉ p.parts

/-- An absolute path that may still climb. -/
structure IsAnchored (p : Path) : Prop where
  absolute : p.isAbsolute = true
  noDot : "." ∉ p.parts

theorem IsCanonical.isAnchored {p : Path} (h : p.IsCanonical) : p.IsAnchored :=
  ⟨h.absolute, h.noDot⟩

theorem IsAnchored.normalize {p : Path} (h : p.IsAnchored) : p.normalize.IsCanonical :=
  ⟨h.absolute, fun hmem => h.noDot (p.normalize_sublist.subset hmem),
    p.isNormal_normalize.not_mem h.absolute⟩

theorem IsAnchored.parent {p : Path} (h : p.IsAnchored) : p.parent.IsAnchored :=
  ⟨h.absolute, fun hmem => h.noDot ((List.dropLast_sublist _).subset hmem)⟩

theorem IsCanonical.parent {p : Path} (h : p.IsCanonical) : p.parent.IsCanonical :=
  ⟨h.absolute, h.isAnchored.parent.noDot,
    fun hmem => h.noUp ((List.dropLast_sublist _).subset hmem)⟩

/-- Single dots are dropped when a path is read. -/
theorem noDot_ofString (text : String) : "." ∉ (ofString text).parts := by
  intro hmem
  obtain ⟨part, hpart, htext⟩ := List.mem_map.mp hmem
  have hkept := (List.mem_filter.mp hpart).2
  have hdot : part = ['.'] := by
    have hlist := congrArg String.toList htext
    rwa [String.toList_ofList] at hlist
  subst hdot
  simp [isKept] at hkept

/-- What a path and a text are joined to: the text alone if it is absolute, else something
below the path. -/
theorem div_cases (p : Path) (text : String) :
    (p / text).IsAnchored ∨ ∃ parts, "." ∉ parts ∧ p / text = p.below parts := by
  by_cases habs : (ofString text).isAbsolute = true
  · left
    have hdiv : p / text = ofString text := if_pos habs
    rw [hdiv]
    exact ⟨habs, noDot_ofString text⟩
  · exact .inr ⟨_, noDot_ofString text, if_neg habs⟩

theorem IsAnchored.below {p : Path} (h : p.IsAnchored) {parts : List String}
    (hparts : "." ∉ parts) : (p.below parts).IsAnchored := by
  refine ⟨h.absolute, ?_⟩
  rw [below_parts, List.mem_append, not_or]
  exact ⟨h.noDot, hparts⟩

theorem IsAnchored.div {p : Path} (h : p.IsAnchored) (text : String) : (p / text).IsAnchored := by
  rcases p.div_cases text with hanchored | ⟨parts, hparts, hdiv⟩
  · exact hanchored
  · rw [hdiv]
    exact h.below hparts

theorem noDot_div {p : Path} (h : "." ∉ p.parts) (text : String) : "." ∉ (p / text).parts := by
  rcases p.div_cases text with hanchored | ⟨parts, hparts, hdiv⟩
  · exact hanchored.noDot
  · rw [hdiv, below_parts, List.mem_append, not_or]
    exact ⟨h, hparts⟩

/-- What can be reached from a directory by names: something below it, or, by an absolute
name, something else. -/
def Reaches (base p : Path) : Prop :=
  p.IsAnchored ∨ ∃ parts, "." ∉ parts ∧ p = base.below parts

theorem Reaches.below {base p : Path} (h : base.Reaches p) {parts : List String}
    (hparts : "." ∉ parts) : base.Reaches (p.below parts) := by
  rcases h with hanchored | ⟨before, hbefore, rfl⟩
  · exact .inl (hanchored.below hparts)
  · refine .inr ⟨before ++ parts, ?_, by rw [below_below]⟩
    rw [List.mem_append, not_or]
    exact ⟨hbefore, hparts⟩

theorem Reaches.div {base p : Path} (h : base.Reaches p) (text : String) :
    base.Reaches (p / text) := by
  rcases p.div_cases text with hanchored | ⟨parts, hparts, hdiv⟩
  · exact .inl hanchored
  · rw [hdiv]
    exact h.below hparts

theorem Reaches.isAnchored {base p : Path} (h : base.Reaches p) (hbase : base.IsAnchored) :
    p.IsAnchored := by
  rcases h with hanchored | ⟨parts, hparts, rfl⟩
  · exact hanchored
  · exact hbase.below hparts

end Path

namespace Session

open Config Source Workspace

theorem noDot_expandHome {env : Environment} {p expanded : Path}
    (h : env.expandHome p = .ok expanded) (hp : "." ∉ p.parts) : "." ∉ expanded.parts := by
  intro hmem
  rcases Environment.mem_parts_expandHome h hmem with hpart | ⟨home, hpart⟩
  · exact hp hpart
  · exact Path.noDot_ofString home hpart

theorem noDot_configuredRoot {env : Environment} {settings : Config.Registry} {root : Path}
    (h : Registry.configuredRoot? env settings = .ok (some root)) : "." ∉ root.parts := by
  unfold Registry.configuredRoot? at h
  split at h
  · split at h
    · next text _ _ =>
        cases hexpanded : env.expandHome (Path.ofString text) with
        | error fault =>
            rw [hexpanded] at h
            cases h
        | ok path =>
            rw [hexpanded] at h
            cases h
            exact noDot_expandHome hexpanded (Path.noDot_ofString text)
    · cases h
  · cases h

/-! ## Contexts of a session -/

/-- A path in the sources of a registry whose root is relative. -/
def Context.InRelativeRegistry (c : Context) (target : Path) : Prop :=
  ∃ root parts, Registry.root c.world c.registryRoot? = .ok root ∧ root.isAbsolute = false ∧
    target = ((sourcesOf root).below parts).normalize

/-- A context as a session finds it: the working directory is absolute, directories have no
entry called by a dot, and the root of the registry is the configured one. -/
structure IsStarted (c : Context) : Prop where
  cwd : c.world.env.cwd.IsAnchored
  names : ∀ place ∈ c.world.tree.nodes.keys, "." ∉ place
  registryRoot :
    Registry.configuredRoot? c.world.env c.settings.registry = .ok c.registryRoot?

namespace IsStarted

variable {c : Context} (h : IsStarted c)
include h

theorem noDot_entry {p : Path} {names : List String} {name : String}
    (hlist : c.world.list p = .ok names) (hname : name ∈ names) : "." ∉ [name] := by
  obtain ⟨-, place, -, -, rfl⟩ := FileTree.list_ok_iff.mp hlist
  have hplace := h.names _ (FileTree.mem_namesIn.mp hname)
  rw [List.mem_append, not_or] at hplace
  exact hplace.2

theorem leads_isAnchored : Leads c Path.IsAnchored Path.IsAnchored :=
  .of_names (fun hp => hp.div) fun hp hlist hname => hp.below (h.noDot_entry hlist hname)

theorem leads_reaches (base : Path) : Leads c base.Reaches base.Reaches :=
  .of_names (fun hp => hp.div) fun hp hlist hname => hp.below (h.noDot_entry hlist hname)

theorem isCanonical_absolute {path : Path} (hpath : "." ∉ path.parts) :
    (c.world.absolute path).IsCanonical := by
  refine Path.IsAnchored.normalize ?_
  by_cases habs : path.isAbsolute = true
  · have hjoined : c.world.env.cwd / path = path := if_pos habs
    rw [hjoined]
    exact ⟨habs, hpath⟩
  · have hjoined : c.world.env.cwd / path = c.world.env.cwd.below path.parts := if_neg habs
    rw [hjoined]
    exact h.cwd.below hpath

/-- Wherever the root of the registry is taken from, it is read from a text. -/
theorem noDot_root {root : Path} (hroot : Registry.root c.world c.registryRoot? = .ok root) :
    "." ∉ root.parts := by
  have hhome : ∀ {usual}, c.world.env.home.map (· / ".cargo") = .ok usual → "." ∉ usual.parts := by
    intro usual husual
    cases hexpanded : c.world.env.home with
    | error fault =>
        rw [hexpanded] at husual
        cases husual
    | ok home =>
        rw [hexpanded] at husual
        cases husual
        exact Path.noDot_div (noDot_expandHome hexpanded (Path.noDot_ofString "~")) ".cargo"
  unfold Registry.root at hroot
  split at hroot
  · next path hconfigured =>
      cases hroot
      exact noDot_configuredRoot (h.registryRoot.trans (congrArg Except.ok hconfigured))
  · split at hroot
    · cases hroot
      exact Path.noDot_ofString _
    · exact hhome hroot
  · exact hhome hroot

/-- The module of a file with a canonical path has a canonical path too, or lies in the
sources of a registry with a relative root. -/
theorem isCanonical_or_inRelativeRegistry {file target : Path} {expression : String}
    (hfile : file.IsCanonical) (hresolved : c.resolution file expression = .ok (some target)) :
    target.IsCanonical ∨ c.InRelativeRegistry target := by
  let Lies := fun p : Path => p.IsAnchored ∨ ∃ root,
    Registry.root c.world c.registryRoot? = .ok root ∧ root.isAbsolute = false ∧
      ∃ parts, p = (sourcesOf root).below parts
  have hregistry : ∀ package subPath, Gives Lies (c.registryModule package subPath) := by
    intro package subPath path hpath
    obtain ⟨root, hroot⟩ := exists_root_of_registryModule hpath
    have hreaches : (sourcesOf root).Reaches path := by
      refine (h.leads_reaches (sourcesOf root)).registryModule ?_ package subPath path hpath
      intro root' hroot'
      obtain rfl : root = root' := Except.ok.inj (hroot.symm.trans hroot')
      exact .inr ⟨[], by simp, (Path.below_nil _).symm⟩
    cases habs : root.isAbsolute with
    | true =>
        have hanchored : root.IsAnchored := ⟨habs, h.noDot_root hroot⟩
        exact .inl (hreaches.isAnchored (hanchored.below (by decide)))
    | false =>
        rcases hreaches with hanchored | ⟨parts, -, rfl⟩
        · exact .inl hanchored
        · exact .inr ⟨root, hroot, habs, parts, rfl⟩
  have hrule : Gives Lies (c.byRule file (ImportRule.ofExpression expression)) :=
    (h.leads_isAnchored.weaken fun _ hp => .inl hp).byRule (fun _ hp => hp.parent)
      hfile.isAnchored hregistry _
  have hnormal : Gives (fun target => target.IsCanonical ∨ c.InRelativeRegistry target)
      (c.resolution file expression) := by
    refine Gives.bind fun found? hfound => ?_
    cases found? with
    | none => exact Gives.nothing
    | some path =>
        refine Gives.found ?_
        rcases hrule path hfound with hanchored | ⟨root, hroot, habs, parts, rfl⟩
        · exact .inl hanchored.normalize
        · exact .inr ⟨root, parts, hroot, habs, rfl⟩
  exact hnormal target hresolved

theorem confines_isCanonical
    (habs : ∀ root, Registry.root c.world c.registryRoot? = .ok root → root.isAbsolute = true) :
    Confines c Path.IsCanonical fun _ => True where
  parent _ hp := hp.parent
  resolution hfile _ hresolved := by
    rcases h.isCanonical_or_inRelativeRegistry hfile hresolved with
      hcanonical | ⟨root, -, hroot, hrelative, -⟩
    · exact hcanonical
    · rw [habs root hroot] at hrelative
      cases hrelative
  imports _ := trivial
  reexports _ := trivial
  calls _ := trivial

end IsStarted

/-! ## What a session resolves -/

/-- The caches agree with the context, and imports were resolved for files in `K` only. -/
structure CallsFrom (c : Context) (K : Path → Prop) (known : Caches) : Prop where
  agree : known.Agree c fun _ => True
  files : ∀ {file expression resolved},
    known.resolutions.get? (file, expression) = some resolved → K file

/-- A query that only resolves imports for files in `K`, and whose answer satisfies `P`. -/
def Stays (c : Context) (K : Path → Prop) (q : Query α) (P : α → Prop) : Prop :=
  ∀ s : State, CallsFrom c K s.caches →
    CallsFrom c K (q.run c s).2.caches ∧ ∀ a, (q.run c s).1 = .ok a → P a

namespace Stays

variable {α β : Type} {c : Context} {K : Path → Prop} {P : α → Prop}

theorem of_caches_eq {q : Query α} (hanswer : ∀ s a, (q.run c s).1 = .ok a → P a)
    (hcaches : ∀ s, (q.run c s).2.caches = s.caches) : Stays c K q P := by
  intro s hs
  refine ⟨?_, hanswer s⟩
  rw [hcaches s]
  exact hs

theorem bind {Q : β → Prop} {x : Query α} {f : α → Query β} (hx : Stays c K x P)
    (hf : ∀ a, P a → Stays c K (f a) Q) : Stays c K (x >>= f) Q := by
  intro s hs
  obtain ⟨hmiddle, hanswer⟩ := hx s hs
  rw [Query.run_bind]
  rcases hrun : x.run c s with ⟨fault | a, s'⟩
  · rw [hrun] at hmiddle
    exact ⟨hmiddle, fun b hb => by cases hb⟩
  · rw [hrun] at hmiddle hanswer
    exact hf a (hanswer a rfl) s' hmiddle

/-- A query stays if it answers what a function of the context gives, and keeps to files. -/
theorem of_answers {q : Query α} {a : Except Fault α} (ha : Answers c (fun _ => True) q a)
    (hfiles : Maintains (fun known => ∀ {file expression resolved},
      known.resolutions.get? (file, expression) = some resolved → K file) q)
    (hP : ∀ v, a = .ok v → P v) : Stays c K q P := by
  intro s hs
  obtain ⟨hanswer, hagree, -⟩ := ha s hs.agree
  exact ⟨⟨hagree, hfiles c s hs.files⟩, fun v hv => hP v (hanswer.symm.trans hv)⟩

theorem fillable_files (K : Path → Prop) :
    Fillable fun known => ∀ {file expression resolved},
      known.resolutions.get? (file, expression) = some resolved → K file where
  summaries _ hknown _ := hknown
  namespaces _ hknown _ := hknown

theorem guardedSteps (c : Context) (K : Path → Prop) : GuardedSteps c K (Stays c K) where
  pure hp := of_caches_eq (fun s a ha => by cases ha; exact hp) fun _ => rfl
  bind := bind
  read := of_caches_eq (fun s a ha => by cases ha; rfl) fun _ => rfl
  ofExcept outcome := of_caches_eq (fun _ _ _ => trivial) fun s => by rw [Query.run_ofExcept]
  debug _ _ := of_caches_eq (fun _ _ _ => trivial) fun _ => rfl
  summaryOf {file} _ := by
    refine of_answers (.summaryOf trivial) ((fillable_files K).summaryOf file) ?_
    rintro summary hsummary
    exact (Except.ok.inj hsummary).symm
  resolve {file} hk localName expression := by
    refine of_answers (.resolve (fun _ _ => trivial) trivial localName expression) ?_
      fun _ hresolved => hresolved
    refine (fillable_files K).resolve ?_ localName
    intro known resolved hknown _ other expression' resolved' hget
    rw [OrderedMap.get?_insert] at hget
    split at hget
    · next hsame =>
        obtain ⟨rfl, -⟩ := Prod.mk.inj hsame
        exact hk
    · exact hknown hget

theorem guarded {E : String → Prop} (h : Confines c K E) : Guarded c K (Stays c K) :=
  (guardedSteps c K).guarded h (of_caches_eq (fun _ _ _ => trivial) fun _ => rfl)

end Stays

theorem callsFrom_sessionAfter {c : Context} {K : Path → Prop} {E : String → Prop}
    (h : Confines c K E) {inquiries : List Inquiry}
    (hstart : ∀ i ∈ inquiries, ∃ path, i.start? = some path ∧ K (c.world.absolute path)) :
    CallsFrom c K (sessionAfter c inquiries).caches := by
  have hrun : ∀ (rest : List Inquiry) (s : State), (∀ i ∈ rest, i ∈ inquiries) →
      CallsFrom c K s.caches →
      CallsFrom c K (rest.foldl (fun state i => (i.query.run c state).2) s).caches := by
    intro rest
    induction rest with
    | nil => exact fun s _ hs => hs
    | cons i rest ih =>
        intro s hrest hs
        obtain ⟨path, hpath, hk⟩ := hstart i (hrest i (by simp))
        have hstays := Inquiry.guarded (Stays.guarded h) h hpath hk
        exact ih _ (fun i hi => hrest i (List.mem_cons_of_mem _ hi)) (hstays s hs).1
  refine hrun inquiries .start (fun _ hi => hi) ⟨Caches.agree_empty c _, ?_⟩
  intro file expression resolved hget
  simp [State.start, Caches.empty] at hget

/-- After any navigation a session answers an import with a canonical path, unless the module
lies in the sources of a registry with a relative root; the same holds of every import that
it has resolved for a file with a canonical path. Under an absolute root it has resolved
imports for files with canonical paths only, to modules with canonical paths. -/
theorem resolved_paths_canonical {c : Context} (h : IsStarted c) {inquiries : List Inquiry}
    (hstart : ∀ i ∈ inquiries, ∃ path, i.start? = some path ∧ "." ∉ path.parts) :
    (∀ path expression target, "." ∉ path.parts →
      ((Query.resolveImport path expression).run c (sessionAfter c inquiries)).1 =
        .ok (some target) →
      target.IsCanonical ∨ c.InRelativeRegistry target) ∧
    ∀ file expression target,
      (sessionAfter c inquiries).caches.resolutions.get? (file, expression) =
        some (some target) →
      (file.IsCanonical → target.IsCanonical ∨ c.InRelativeRegistry target) ∧
      ((∀ root, Registry.root c.world c.registryRoot? = .ok root → root.isAbsolute = true) →
        file.IsCanonical ∧ target.IsCanonical) := by
  have hagree : (sessionAfter c inquiries).caches.Agree c fun _ => True :=
    agree_foldl c inquiries (Caches.agree_empty c _)
  refine ⟨fun path expression target hpath hanswer => ?_, fun file expression target hget => ?_⟩
  · have hcanonical : (c.world.absolute path).IsCanonical := h.isCanonical_absolute hpath
    have hk : (fun _ => True) (c.world.absolute path) := trivial
    obtain ⟨a, ha, hresolved⟩ := (Settles.guarded (.trivial c)).resolveImport hk expression
    rw [(ha _ hagree).1] at hanswer
    exact h.isCanonical_or_inRelativeRegistry hcanonical (hresolved _ hanswer)
  · have hresolved : c.resolution file expression = .ok (some target) := hagree.resolutions hget
    refine ⟨fun hfile => h.isCanonical_or_inRelativeRegistry hfile hresolved, fun habs => ?_⟩
    have hconfines := h.confines_isCanonical habs
    have hcalls := callsFrom_sessionAfter hconfines fun i hi => by
      obtain ⟨path, hpath, hdot⟩ := hstart i hi
      exact ⟨path, hpath, h.isCanonical_absolute hdot⟩
    have hfile : file.IsCanonical := hcalls.files hget
    exact ⟨hfile, hconfines.resolution hfile trivial hresolved⟩

def relativeRegistry : Context where
  world :=
    { tree := ⟨⟨[(["w"], .directory), (["w", "c"], .directory),
        (["w", "c", "registry"], .directory), (["w", "c", "registry", "src"], .directory),
        (["w", "c", "registry", "src", "i"], .directory),
        (["w", "c", "registry", "src", "i", "miden-stdlib-1"], .directory),
        (["w", "c", "registry", "src", "i", "miden-stdlib-1", "asm"], .directory),
        (["w", "c", "registry", "src", "i", "miden-stdlib-1", "asm", "m.masm"], .file .empty)]⟩⟩
      env := ⟨⟨[("CARGO_HOME", "c")]⟩, ⟨.slash, ["w"]⟩, [], 0⟩ }
  settings := {}
  registryRoot? := none

theorem isStarted_relativeRegistry : IsStarted relativeRegistry := by
  refine ⟨⟨rfl, by decide⟩, ?_, rfl⟩
  decide +kernel

theorem resolveImport_relativeRegistry :
    let before := [Inquiry.resolveImport ⟨.none, ["g.masm"]⟩ "std::n"]
    let target : Path := ⟨.none, ["c", "registry", "src", "i", "miden-stdlib-1", "asm", "m.masm"]⟩
    IsStarted relativeRegistry ∧
      (∀ i ∈ before, ∃ path, i.start? = some path ∧ "." ∉ path.parts) ∧
      ((Query.resolveImport ⟨.slash, ["w", "f.masm"]⟩ "std::m").run relativeRegistry
        (sessionAfter relativeRegistry before)).1 = .ok (some target) ∧
      target.isAbsolute = false ∧ relativeRegistry.InRelativeRegistry target := by
  intro before target
  have hstart : ∀ i ∈ before, ∃ path, i.start? = some path ∧ "." ∉ path.parts := by
    intro i hi
    obtain rfl := List.mem_singleton.mp hi
    exact ⟨_, rfl, by decide⟩
  have hanswer : ((Query.resolveImport ⟨.slash, ["w", "f.masm"]⟩ "std::m").run relativeRegistry
      (sessionAfter relativeRegistry before)).1 = .ok (some target) := by
    decide +kernel
  rcases (resolved_paths_canonical isStarted_relativeRegistry hstart).1 _ _ _ (by decide) hanswer
    with hcanonical | hrelative
  · exact absurd hcanonical.absolute (by decide)
  · exact ⟨isStarted_relativeRegistry, hstart, hanswer, rfl, hrelative⟩

end Session

end AsmNavigator
