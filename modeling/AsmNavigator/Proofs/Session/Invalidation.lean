import AsmNavigator.Proofs.Session.Confinement
import AsmNavigator.Proofs.Session.Dependence
import AsmNavigator.Proofs.Session.Transparency

/-! # Notifications keep a session up to date

Files may change while a session lasts. If every change between two questions is
announced between them, every question is answered as by a session that has just begun.
Between two questions the caches are `Behind`: they agree with the tree of the last
question, less what notifications have made them forget.
-/

namespace AsmNavigator

namespace Session

open Config Source Workspace FileTree

inductive Event where
  | ask (i : Inquiry)
  | clear
  | notify (path : Path)
  | write (path : Path) (bytes : ByteArray)
  | remove (path : Path)

structure Situation where
  tree : FileTree
  state : State

/-- One event. A file is written or removed under its absolute path, so it is not changed
where that path cannot be looked up. -/
inductive Step (c : Context) : Situation → Event → Situation → Prop where
  | ask {s : Situation} {i : Inquiry} :
      Step c s (.ask i) ⟨s.tree, (i.query.run (c.over s.tree) s.state).2⟩
  | clear {s : Situation} : Step c s .clear ⟨s.tree, (Query.clear.run (c.over s.tree) s.state).2⟩
  | notify {s : Situation} {path : Path} :
      Step c s (.notify path) ⟨s.tree, ((Query.fileChanged path).run (c.over s.tree) s.state).2⟩
  | write {s : Situation} {path : Path} {bytes : ByteArray} :
      s.tree.Writable (c.world.absolute path) →
      Step c s (.write path bytes) ⟨s.tree.writeFile (c.world.place path) bytes, s.state⟩
  | remove {s : Situation} {path : Path} {bytes : ByteArray} :
      (c.world.absolute path).Expressible →
      s.tree.fileAt (c.world.place path) = some bytes →
      Step c s (.remove path) ⟨s.tree.remove (c.world.place path), s.state⟩

/-- The situation after some events, from a new session on the files of the context. -/
inductive Run (c : Context) : List Event → Situation → Prop where
  | start : Run c [] ⟨c.world.tree, .start⟩
  | step {events : List Event} {s s' : Situation} {e : Event} :
      Run c events s → Step c s e s' → Run c (events ++ [e]) s'

/-! ## Announced changes -/

def Event.changed? : Event → Option Path
  | .write path _ => some path
  | .remove path => some path
  | _ => none

/-- Every change among some events is announced among them, before it or after. -/
def Announces (c : Context) (events : List Event) : Prop :=
  ∀ path ∈ events.filterMap Event.changed?,
    ∃ notified, .notify notified ∈ events ∧ c.world.absolute notified = c.world.absolute path

/-- Between any two questions every change is announced. -/
def AnnouncesBetween (c : Context) (events : List Event) : Prop :=
  ∀ before i middle i' after,
    events = before ++ .ask i :: (middle ++ .ask i' :: after) → Announces c middle

theorem AnnouncesBetween.of_append {c : Context} {events more : List Event}
    (h : AnnouncesBetween c (events ++ more)) : AnnouncesBetween c events := by
  intro before i middle i' after heq
  apply h before i middle i' (after ++ more)
  rw [heq]
  simp

/-- No path that a question starts from or that is changed begins with two slashes, nor
does one in a build script that is written. -/
def Event.IsPlain (c : Context) : Event → Prop
  | .ask i => ∃ path, i.start? = some path ∧ path.root ≠ .doubleSlash
  | .clear => True
  | .notify _ => True
  | .write path bytes => path.root ≠ .doubleSlash ∧
      ((c.world.absolute path).name = c.settings.layout.buildScript →
        HasPlainBindings c.settings.registry bytes)
  | .remove path => path.root ≠ .doubleSlash

theorem Event.IsPlain.root_of_changed {c : Context} {e : Event} (h : e.IsPlain c) {path : Path}
    (hpath : e.changed? = some path) : path.root ≠ .doubleSlash := by
  cases e with
  | write changed bytes =>
      cases hpath
      exact h.1
  | remove changed =>
      cases hpath
      exact h
  | _ => cases hpath

/-! ## Caches that are behind -/

/-- The caches agree with the tree before some events, less what was forgotten since. -/
structure Behind (c : Context) (old : FileTree) (since : List Event) (s : Situation) : Prop where
  plain : old.IsPlain
  agree : s.state.caches.Agree (c.over old) Path.IsDirect
  differs : DiffersOnlyAt ((since.filterMap Event.changed?).map c.world.place) old s.tree
  forgot : ∀ {path}, .notify path ∈ since →
    s.state.caches.Forgot c.settings.layout (c.world.absolute path)

section

variable {c : Context} {old : FileTree} {since : List Event} {s : Situation}

/-- Once all changes are announced, the caches agree with the tree as it is. -/
theorem Behind.agree_of_announces (h : Behind c old since s) (htree : s.tree.IsPlain)
    (hrooted : IsRooted (c.over s.tree)) (hplain : ∀ e ∈ since, e.IsPlain c)
    (hannounces : Announces c since) :
    s.state.caches.Agree (c.over s.tree) Path.IsDirect := by
  apply h.agree.over h.plain htree hrooted.script h.differs
  intro place hplace
  obtain ⟨path, hpath, rfl⟩ := List.mem_map.mp hplace
  obtain ⟨notified, hnotified, hsame⟩ := hannounces path hpath
  obtain ⟨e, he, hchanged⟩ := List.mem_filterMap.mp hpath
  have hdirect := isDirect_absolute hrooted ((hplain e he).root_of_changed hchanged)
  have hforgot := h.forgot hnotified
  rw [hsame] at hforgot
  rw [← hdirect.root]
  exact hforgot

theorem Behind.write (h : Behind c old since s) (htree : s.tree.IsPlain) {path : Path}
    (hdirect : (c.world.absolute path).IsDirect)
    (hwritable : s.tree.Writable (c.world.absolute path)) (bytes : ByteArray) :
    Behind c old (since ++ [.write path bytes])
      ⟨s.tree.writeFile (c.world.place path) bytes, s.state⟩ := by
  refine ⟨h.plain, h.agree, ?_, ?_⟩
  · rw [List.filterMap_append, List.map_append]
    exact h.differs.writeFile htree.linkFree hdirect.root hwritable bytes
  · intro notified hmem
    exact h.forgot (by simpa using hmem)

theorem Behind.remove (h : Behind c old since s) (htree : s.tree.IsPlain) {path : Path}
    (hdirect : (c.world.absolute path).IsDirect)
    (hexpressible : (c.world.absolute path).Expressible) {bytes : ByteArray} (hfile : s.tree.fileAt (c.world.place path) = some bytes) :
    Behind c old (since ++ [.remove path]) ⟨s.tree.remove (c.world.place path), s.state⟩ := by
  refine ⟨h.plain, h.agree, ?_, ?_⟩
  · rw [List.filterMap_append, List.map_append]
    exact h.differs.remove htree hdirect.root hexpressible hfile
  · intro notified hmem
    exact h.forgot (by simpa using hmem)

/-- What a notification leaves of the caches. -/
theorem caches_fileChanged (c : Context) (path : Path) (state : State) :
    ((Query.fileChanged path).run c state).2.caches =
      { summaries := state.caches.summaries.erase (c.world.absolute path)
        resolutions := .empty
        namespaces :=
          if (c.world.absolute path).name = c.settings.layout.buildScript ||
            (c.world.absolute path).name = c.settings.layout.workspaceManifest then .empty
          else state.caches.namespaces } := rfl

theorem Caches.Agree.fileChanged {state : State} {K : Path → Prop} (h : state.caches.Agree c K)
    (d : Context) (path : Path) :
    ((Query.fileChanged path).run d state).2.caches.Agree c K := by
  rw [caches_fileChanged]
  refine ⟨?_, ?_, ?_⟩
  · intro file summary hget
    rw [OrderedMap.get?_erase] at hget
    split at hget
    · cases hget
    · exact h.summaries hget
  · intro file expression resolved hget
    cases hget
  · intro root table hget
    simp only at hget
    split at hget
    · cases hget
    · exact h.namespaces hget

theorem Caches.Forgot.fileChanged {state : State} {layout : Layout} {file : Path}
    (h : state.caches.Forgot layout file) (d : Context) (path : Path) :
    ((Query.fileChanged path).run d state).2.caches.Forgot layout file := by
  rw [caches_fileChanged]
  refine ⟨?_, rfl, ?_⟩
  · rw [OrderedMap.get?_erase, h.summary, ite_self]
  · intro hname
    simp only [h.namespaces hname, ite_self]

theorem forgot_fileChanged (c : Context) (path : Path) (state : State) :
    ((Query.fileChanged path).run c state).2.caches.Forgot c.settings.layout
      (c.world.absolute path) := by
  rw [caches_fileChanged]
  refine ⟨?_, rfl, ?_⟩
  · rw [OrderedMap.get?_erase, if_pos rfl]
  · intro hname
    simp [hname]

theorem Behind.notify (h : Behind c old since s) (path : Path) :
    Behind c old (since ++ [.notify path])
      ⟨s.tree, ((Query.fileChanged path).run (c.over s.tree) s.state).2⟩ := by
  refine ⟨h.plain, h.agree.fileChanged _ path, ?_, ?_⟩
  · rw [List.filterMap_append, List.map_append]
    show DiffersOnlyAt (_ ++ []) old s.tree
    rw [List.append_nil]
    exact h.differs
  · intro notified hmem
    rcases List.mem_append.mp hmem with hmem | hmem
    · exact (h.forgot hmem).fileChanged _ path
    · cases List.mem_singleton.mp hmem
      exact forgot_fileChanged (c.over s.tree) path s.state

/-! ## Runs -/

structure Valid (c : Context) (events : List Event) (s : Situation) : Prop where
  plain : s.tree.IsPlain
  rooted : IsRooted (c.over s.tree)
  caches : s.state.caches = .empty ∨ ∃ before i since old,
    events = before ++ .ask i :: since ∧ Behind c old since s

/-- A question finds caches that agree with the tree. -/
theorem Valid.agree {events : List Event} (h : Valid c events s)
    (hplain : ∀ e ∈ events, e.IsPlain c) {i : Inquiry}
    (hannounces : AnnouncesBetween c (events ++ [.ask i])) :
    s.state.caches.Agree (c.over s.tree) Path.IsDirect := by
  rcases h.caches with hempty | ⟨before, last, since, old, rfl, hbehind⟩
  · rw [hempty]
    exact Caches.agree_empty _ _
  · refine hbehind.agree_of_announces h.plain h.rooted ?_ ?_
    · intro e he
      exact hplain e (by simp [he])
    · exact hannounces before last since i [] (by simp)

theorem rooted_over {tree : FileTree} (h : IsRooted (c.over old)) (hlinks : tree.IsLinkFree)
    (hscripts : ∀ {place bytes}, tree.fileAt place = some bytes →
      place.getLast? = some c.settings.layout.buildScript →
      HasPlainBindings c.settings.registry bytes) : IsRooted (c.over tree) :=
  ⟨h.layout, h.script, h.cwd, h.registry,
    fun hcontents => hscripts (hlinks.contentsAt_eq _ ▸ hcontents)⟩

theorem IsRooted.scripts_of_fileAt (h : IsRooted (c.over old)) (hlinks : old.IsLinkFree)
    {place : List String} {bytes : ByteArray} (hfile : old.fileAt place = some bytes)
    (hname : place.getLast? = some c.settings.layout.buildScript) :
    HasPlainBindings c.settings.registry bytes :=
  h.scripts ((hlinks.contentsAt_eq place).trans hfile) hname

/-- Only a build script that is written can bring two leading slashes. -/
theorem rooted_writeFile (h : IsRooted (c.over old)) (htree : old.IsPlain) {file : Path}
    (hwritable : old.Writable file) {bytes : ByteArray}
    (hplain : file.name = c.settings.layout.buildScript →
      HasPlainBindings c.settings.registry bytes) :
    IsRooted (c.over (old.writeFile file.parts bytes)) := by
  apply rooted_over h (htree.linkFree.writeFile _ _)
  intro place found hfound hname
  rw [htree.linkFree.fileAt_writeFile hwritable.nonempty] at hfound
  split at hfound
  · next hplace =>
      cases hfound
      apply hplain
      rw [Path.name, ← hplace, hname]
      rfl
  · exact IsRooted.scripts_of_fileAt h htree.linkFree hfound hname

theorem rooted_remove (h : IsRooted (c.over old)) (htree : old.IsPlain) {parts : List String}
    {bytes : ByteArray} (hfile : old.fileAt parts = some bytes) :
    IsRooted (c.over (old.remove parts)) := by
  apply rooted_over h (htree.linkFree.remove _)
  intro place found hfound hname
  rw [htree.fileAt_remove hfile] at hfound
  split at hfound
  · cases hfound
  · exact IsRooted.scripts_of_fileAt h htree.linkFree hfound hname

theorem Valid.step {events : List Event} {s' : Situation} {e : Event} (h : Valid c events s)
    (hstep : Step c s e s') (hplain : ∀ e' ∈ events ++ [e], e'.IsPlain c)
    (hannounces : AnnouncesBetween c (events ++ [e])) : Valid c (events ++ [e]) s' := by
  have he : e.IsPlain c := hplain e (by simp)
  cases hstep with
  | @ask i =>
      obtain ⟨path, hstart, hroot⟩ := he
      have hagree := h.agree (fun e he => hplain e (by simp [he])) hannounces
      obtain ⟨a, ha⟩ := Inquiry.settled_of_start? (confines_isDirect h.rooted) hstart
        (isDirect_absolute h.rooted hroot)
      refine ⟨h.plain, h.rooted, .inr ⟨events, i, [], s.tree, rfl, ?_⟩⟩
      exact ⟨h.plain, (ha s.state hagree).2.1, DiffersOnlyAt.refl _, by simp⟩
  | clear => exact ⟨h.plain, h.rooted, .inl rfl⟩
  | @notify path =>
      refine ⟨h.plain, h.rooted, ?_⟩
      rcases h.caches with hempty | ⟨before, i, since, old, rfl, hbehind⟩
      · left
        rw [caches_fileChanged, hempty]
        simp [Caches.empty, OrderedMap.erase, OrderedMap.empty]
      · exact .inr ⟨before, i, since ++ [.notify path], old, by simp, hbehind.notify path⟩
  | @write path bytes hwritable =>
      have hdirect := isDirect_absolute h.rooted he.1
      refine ⟨h.plain.writeFile hwritable bytes,
        rooted_writeFile h.rooted h.plain hwritable he.2, ?_⟩
      rcases h.caches with hempty | ⟨before, i, since, old, rfl, hbehind⟩
      · exact .inl hempty
      · exact .inr ⟨before, i, since ++ [.write path bytes], old, by simp,
          hbehind.write h.plain hdirect hwritable bytes⟩
  | @remove path bytes hexpressible hfile =>
      have hdirect := isDirect_absolute h.rooted he
      refine ⟨h.plain.remove hfile, rooted_remove h.rooted h.plain hfile, ?_⟩
      rcases h.caches with hempty | ⟨before, i, since, old, rfl, hbehind⟩
      · exact .inl hempty
      · exact .inr ⟨before, i, since ++ [.remove path], old, by simp,
          hbehind.remove h.plain hdirect hexpressible hfile⟩

theorem Run.valid {events : List Event} (h : Run c events s) (htree : c.world.tree.IsPlain)
    (hrooted : IsRooted c) (hplain : ∀ e ∈ events, e.IsPlain c)
    (hannounces : AnnouncesBetween c events) : Valid c events s := by
  induction h with
  | start => exact ⟨htree, hrooted, .inl rfl⟩
  | step _ hstep ih =>
      have hbefore := ih (fun e he => hplain e (by simp [he])) hannounces.of_append
      exact hbefore.step hstep hplain hannounces

end

/-- In every run that announces its changes a question is answered as by a new session on
the files as they are then. -/
theorem answer_of_announced_changes (c : Context) (htree : c.world.tree.IsPlain)
    (hrooted : IsRooted c) {events : List Event} {s : Situation} (hrun : Run c events s)
    (i : Inquiry) (hplain : ∀ e ∈ events ++ [.ask i], e.IsPlain c)
    (hannounces : AnnouncesBetween c (events ++ [.ask i])) :
    (i.query.run (c.over s.tree) s.state).1 = (i.query.run (c.over s.tree) .start).1 := by
  have hbefore : ∀ e ∈ events, e.IsPlain c := fun e he => hplain e (by simp [he])
  have hvalid := hrun.valid htree hrooted hbefore hannounces.of_append
  obtain ⟨path, hstart, hroot⟩ : (Event.ask i).IsPlain c := hplain _ (by simp)
  obtain ⟨a, ha⟩ := Inquiry.settled_of_start? (confines_isDirect hvalid.rooted) hstart
    (isDirect_absolute hvalid.rooted hroot)
  calc (i.query.run (c.over s.tree) s.state).1
    _ = a := (ha s.state (hvalid.agree hbefore hannounces)).1
    _ = (i.query.run (c.over s.tree) .start).1 := (ha .start (Caches.agree_empty _ _)).1.symm

def emptyWorkspace : Context where
  world := ⟨.empty, ⟨⟨[("CARGO_HOME", "/r")]⟩, ⟨.slash, []⟩, [], 0⟩⟩
  settings := {}
  registryRoot? := none

def newModule : Path := ⟨.slash, ["w", "crates", "k", "asm", "a", "b", "m.masm"]⟩

def newScript : Path := ⟨.slash, ["w", "crates", "k", "build.rs"]⟩

def askForModule : Inquiry := .resolveImport ⟨.slash, ["w", "x.masm"]⟩ "miden::ns::m"

/-- A module is looked for in vain, and then a new crate declares its namespace. The build
script is announced before it is written. -/
def newCrate : List Event :=
  [.write ⟨.slash, ["w", "Cargo.toml"]⟩ "[workspace]".toUTF8,
    .ask askForModule,
    .write newModule .empty,
    .notify newModule,
    .notify newScript,
    .write newScript
      "const K_LIB_NAMESPACE: &str = \"miden::ns\"; const ASM_K_DIR: &str = \"a/b\";".toUTF8]

theorem isPlainScript_default : IsPlainScript {} := by
  refine ⟨isPlainLayout_default.cratesDir, ⟨by decide, by decide, by decide, by decide⟩, ?_⟩
  have hchars : "build.rs".toList.all
      (fun ch => decide (Text.isNameChar ch = true ∧ ch ≠ '\x00')) = true := by decide
  intro ch hch
  exact of_decide_eq_true (List.all_eq_true.mp hchars ch hch)

theorem isRooted_emptyWorkspace : IsRooted emptyWorkspace := by
  refine ⟨isPlainLayout_default, isPlainScript_default, rfl, ?_, ?_⟩
  · intro root hroot
    have hregistry : Registry.root emptyWorkspace.world emptyWorkspace.registryRoot? =
        .ok ⟨.slash, ["r"]⟩ := by decide +kernel
    rw [hregistry] at hroot
    cases hroot
    rfl
  · intro place bytes hfile
    have hfile : FileTree.empty.fileAt place = some bytes :=
      (isPlain_empty.linkFree.contentsAt_eq place).symm.trans hfile
    rw [fileAt_eq_some_iff] at hfile
    by_cases hplace : place = []
    · subst hplace
      cases hfile
    · rw [entryAt?_of_ne_nil hplace] at hfile
      cases hfile

theorem isPlain_newCrate : ∀ e ∈ newCrate ++ [.ask askForModule], e.IsPlain emptyWorkspace := by
  intro e he
  simp only [newCrate, List.cons_append, List.nil_append, List.mem_cons, List.not_mem_nil,
    or_false] at he
  rcases he with rfl | rfl | rfl | rfl | rfl | rfl | rfl
  · exact ⟨by decide, fun hname => absurd hname (by decide +kernel)⟩
  · exact ⟨_, rfl, by decide⟩
  · exact ⟨by decide, fun hname => absurd hname (by decide +kernel)⟩
  · exact True.intro
  · exact True.intro
  · refine ⟨by decide, fun _ => ?_⟩
    unfold HasPlainBindings
    decide +kernel
  · exact ⟨_, rfl, by decide⟩

/-- The only two questions have both files of the crate between them. -/
theorem announcesBetween_newCrate :
    AnnouncesBetween emptyWorkspace (newCrate ++ [.ask askForModule]) := by
  intro before i middle i' after heq
  have hmiddle : middle = newCrate.drop 2 := by
    simp only [newCrate, List.cons_append, List.nil_append, List.drop_succ_cons,
      List.drop_zero] at heq ⊢
    rcases before with _ | ⟨_, _ | ⟨_, before⟩⟩
    · simp at heq
    · rcases middle with _ | ⟨_, _ | ⟨_, _ | ⟨_, _ | ⟨_, _ | ⟨_, middle⟩⟩⟩⟩⟩ <;> simp_all
    · rcases before with _ | ⟨_, _ | ⟨_, _ | ⟨_, _ | ⟨_, _ | ⟨_, before⟩⟩⟩⟩⟩ <;> simp_all
  rw [hmiddle]
  intro path hpath
  have hcrate : path = newModule ∨ newScript = path := by
    simpa [newCrate, Event.changed?] using hpath
  rcases hcrate with rfl | rfl
  · exact ⟨newModule, by simp [newCrate], rfl⟩
  · exact ⟨newScript, by simp [newCrate], rfl⟩

theorem answer_of_newCrate :
    ∃ s, Run emptyWorkspace newCrate s ∧
      (∀ e ∈ newCrate ++ [.ask askForModule], e.IsPlain emptyWorkspace) ∧
      AnnouncesBetween emptyWorkspace (newCrate ++ [.ask askForModule]) ∧
      (askForModule.query.run (emptyWorkspace.over s.tree) s.state).1 = .ok (some newModule) := by
  have hmanifest := Run.step (e := newCrate[0]) (.start (c := emptyWorkspace))
    (.write (by decide +kernel))
  have hasked := hmanifest.step (.ask (i := askForModule))
  have hmodule := hasked.step (e := newCrate[2]) (.write (by decide +kernel))
  have hnotified := hmodule.step (e := newCrate[3]) .notify
  have hannounced := hnotified.step (e := newCrate[4]) .notify
  have hrun := hannounced.step (e := newCrate[5]) (.write (by decide +kernel))
  refine ⟨_, hrun, isPlain_newCrate, announcesBetween_newCrate, ?_⟩
  have hanswer := answer_of_announced_changes emptyWorkspace isPlain_empty isRooted_emptyWorkspace
    hrun askForModule isPlain_newCrate announcesBetween_newCrate
  apply hanswer.trans
  show ((Query.resolveImport ⟨.slash, ["w", "x.masm"]⟩ "miden::ns::m").run _ .start).1 =
    .ok (some newModule)
  decide +kernel

end Session

end AsmNavigator
