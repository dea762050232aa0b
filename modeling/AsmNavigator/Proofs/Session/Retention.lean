import AsmNavigator.Proofs.Session.Navigation
import AsmNavigator.Proofs.Session.Transparency

/-! # Answers that stay

Files and variables may change while a session lasts. A query fills gaps in the caches
and touches nothing else, so what a session has once answered about an import, a file or
a workspace it answers again, right or outdated, until it is told to forget it.

`Ensures` carries an assertion about the caches through a query. The assertion that
nothing of some earlier caches is lost is maintained by every query.
-/

namespace AsmNavigator.Session

open Config Source Workspace

/-- In every world, a query leads from caches with `P` to caches with `Q`, whether it
answers or fails. -/
def Ensures (P Q : Caches → Prop) (q : Query α) : Prop :=
  ∀ (c : Context) (s : State), P s.caches → Q (q.run c s).2.caches

abbrev Maintains (I : Caches → Prop) (q : Query α) : Prop := Ensures I I q

namespace Ensures

variable {P Q I : Caches → Prop} {α β : Type}

theorem bind {x : Query α} {f : α → Query β} {R : Caches → Prop} (hx : Ensures P Q x)
    (hfail : ∀ known, Q known → R known) (hf : ∀ a, Ensures Q R (f a)) :
    Ensures P R (x >>= f) := by
  intro c s hs
  have hmiddle := hx c s hs
  rw [Query.run_bind]
  rcases hr : x.run c s with ⟨outcome, s'⟩
  rw [hr] at hmiddle
  cases outcome with
  | error fault => exact hfail _ hmiddle
  | ok a => exact hf a c s' hmiddle

theorem of_caches_eq {q : Query α} (h : ∀ c s, (q.run c s).2.caches = s.caches) :
    Maintains I q := by
  intro c s hs
  rw [h c s]
  exact hs

theorem ofExcept (outcome : Except Fault α) : Maintains I (Query.ofExcept outcome) :=
  of_caches_eq fun c s => by rw [Query.run_ofExcept]

theorem caches : Maintains I Query.caches := of_caches_eq fun _ _ => rfl

theorem compositional (I : Caches → Prop) : Compositional (Maintains I) where
  pure _ := of_caches_eq fun _ _ => rfl
  read := of_caches_eq fun _ _ => rfl
  debug _ _ := of_caches_eq fun _ _ => rfl
  bind hx hf := bind hx (fun _ h => h) hf

theorem modifyCaches {change : Caches → Caches} (h : ∀ known, P known → Q (change known)) :
    Ensures P Q (Query.modifyCaches change) := fun _ s hs => h s.caches hs

/-- The rest of a query may use what the caches hold that it has looked into. -/
theorem caches_bind {f : Caches → Query α}
    (h : ∀ known, Ensures (fun found => P found ∧ found = known) Q (f known)) :
    Ensures P Q (Query.caches >>= f) := by
  intro c s hs
  rw [Query.run_bind, Query.run_caches]
  exact h s.caches c s ⟨hs, rfl⟩

theorem weaken {q : Query α} {R : Caches → Prop} (hq : Ensures Q R q)
    (h : ∀ known, P known → Q known) : Ensures P R q := fun c s hs => hq c s (h _ hs)

end Ensures

/-! ## Filling gaps -/

/-- An assertion that no new entry for a file or a workspace breaks. -/
structure Fillable (I : Caches → Prop) : Prop where
  summaries : ∀ {known : Caches} {file : Path} (summary : Summary), I known →
    known.summaries.get? file = none →
    I { known with summaries := known.summaries.insert file summary }
  namespaces : ∀ {known : Caches} {root : Path} (table : NamespaceTable), I known →
    known.namespaces.get? root = none →
    I { known with namespaces := known.namespaces.insert root table }

namespace Fillable

variable {I : Caches → Prop}

theorem summaryOf (h : Fillable I) (file : Path) : Maintains I (Query.summaryOf file) := by
  have hsteps := Ensures.compositional I
  refine Ensures.caches_bind fun known => ?_
  cases hget : known.summaries.get? file with
  | some summary => exact (hsteps.pure summary).weaken fun _ hknown => hknown.1
  | none =>
      let missing := fun found : Caches => I found ∧ found.summaries.get? file = none
      have hread : Maintains missing (Query.readSource file) :=
        (Ensures.compositional missing).readSource file
      have hstart : ∀ found, I found ∧ found = known → missing found := by
        rintro found ⟨hI, rfl⟩
        exact ⟨hI, hget⟩
      refine (hread.weaken hstart).bind (fun _ hI => hI.1) fun result => ?_
      have hstore := Ensures.modifyCaches (P := missing) (Q := I) fun found hfound =>
        h.summaries (Summary.ofLines result.lines) hfound.1 hfound.2
      exact hstore.bind (fun _ hI => hI) fun _ => hsteps.pure _

theorem namespaceTable (h : Fillable I) (root : Path) :
    Maintains I (Query.namespaceTable root) := by
  have hsteps := Ensures.compositional I
  refine Ensures.caches_bind fun known => ?_
  cases hget : known.namespaces.get? root with
  | some table => exact (hsteps.pure table).weaken fun _ hknown => hknown.1
  | none =>
      let missing := fun found : Caches => I found ∧ found.namespaces.get? root = none
      have hstart : ∀ found, I found ∧ found = known → missing found := by
        rintro found ⟨hI, rfl⟩
        exact ⟨hI, hget⟩
      refine Ensures.weaken (Q := missing) ?_ hstart
      refine (Ensures.compositional missing).read.bind (fun _ hI => hI.1) fun context => ?_
      refine (Ensures.ofExcept _).bind (fun _ hI => hI.1) fun table => ?_
      have hstore := Ensures.modifyCaches (P := missing) (Q := I) fun found hfound =>
        h.namespaces table hfound.1 hfound.2
      refine hstore.bind (fun _ hI => hI) fun _ => ?_
      exact hsteps.bind (hsteps.debug _ _) fun _ => hsteps.pure _

theorem ofRules (h : Fillable I) : OfRules (Maintains I) :=
  { Ensures.compositional I with ofExcept := Ensures.ofExcept, namespaceTable := h.namespaceTable }

end Fillable

/-- The rules for imports look up files and workspaces, and resolve no other import. -/
theorem Fillable.missingResolution {I : Caches → Prop} (h : Fillable I) (key : Path × String) :
    Fillable fun known => I known ∧ known.resolutions.get? key = none where
  summaries summary hknown hmissing := ⟨h.summaries summary hknown.1 hmissing, hknown.2⟩
  namespaces table hknown hmissing := ⟨h.namespaces table hknown.1 hmissing, hknown.2⟩

theorem Fillable.resolve {I : Caches → Prop} (h : Fillable I) {file : Path} {expression : String}
    (hstore : ∀ {known : Caches} (resolved : Option Path), I known →
      known.resolutions.get? (file, expression) = none →
      I { known with resolutions := known.resolutions.insert (file, expression) resolved })
    (localName : String) : Maintains I (Query.resolve file localName expression) := by
  have hsteps := Ensures.compositional I
  refine Ensures.caches_bind fun known => ?_
  cases hget : known.resolutions.get? (file, expression) with
  | some resolved => exact (hsteps.pure resolved).weaken fun _ hknown => hknown.1
  | none =>
      have hfillable := h.missingResolution (file, expression)
      have hrule := hfillable.ofRules.byRule file (ImportRule.ofExpression expression)
      refine Ensures.bind (hrule.weaken ?_) (fun _ hI => hI.1) fun found? => ?_
      · rintro found ⟨hknown, rfl⟩
        exact ⟨hknown, hget⟩
      · refine Ensures.bind (Q := I) ?_ (fun _ hI => hI) fun _ => ?_
        · exact Ensures.modifyCaches fun found hfound => hstore _ hfound.1 hfound.2
        · exact hsteps.bind (hsteps.debug _ _) fun _ => hsteps.pure _

/-! ## Every query keeps every entry -/

/-- A new entry changes no entry. -/
theorem fillable_extends (before : Caches) : Fillable before.Extends where
  summaries {known file} summary h hmissing := by
    refine h.trans ⟨fun hget => ?_, fun h => h, fun h => h⟩
    exact OrderedMap.get?_insert_of_missing hmissing hget _
  namespaces {known root} table h hmissing := by
    refine h.trans ⟨fun h => h, fun h => h, fun hget => ?_⟩
    exact OrderedMap.get?_insert_of_missing hmissing hget _

theorem maintains_resolve (before : Caches) (file : Path) (localName expression : String) :
    Maintains before.Extends (Query.resolve file localName expression) := by
  refine (fillable_extends before).resolve (fun {known} resolved hknown hmissing => ?_) localName
  refine hknown.trans ⟨fun h => h, fun hget => ?_, fun h => h⟩
  exact OrderedMap.get?_insert_of_missing hmissing hget _

theorem ofNavigation_extends (before : Caches) : OfNavigation (Maintains before.Extends) :=
  OfReexports.ofNavigation
    { Ensures.compositional before.Extends with
      summaryOf := (fillable_extends before).summaryOf
      resolve := maintains_resolve before }
    Ensures.caches Ensures.ofExcept

theorem maintains_inquiry (before : Caches) (i : Inquiry) :
    Maintains before.Extends i.query := by
  have h := ofNavigation_extends before
  cases i with
  | definition path line column => exact h.definitionBy _ path line column
  | hover path line column => exact h.hover path line column
  | resolveImport path expression => exact h.resolveImport path expression
  | definitionIn document line column => exact h.definitionIn document line column
  | hoverIn document line column => exact h.hoverIn document line column
  | summaryOf file => exact h.summaryOf file
  | namespaceTable root => exact (fillable_extends before).namespaceTable root
  | namespaceNamed root name =>
      exact h.map ((fillable_extends before).namespaceTable root) _
  | locateProcedure file name => exact h.locateProcedure file name
  | locateConstant file name => exact h.scan .constant file name
  | findSource file name => exact h.findSource file name

/-! ## Answers and entries -/

/-- From caches with `P`, whenever a query answers, its answer and the caches that it leaves
are related by `R`. -/
def Leaves (P : Caches → Prop) (R : α → Caches → Prop) (q : Query α) : Prop :=
  ∀ (c : Context) (s : State) (a : α), P s.caches → (q.run c s).1 = .ok a →
    R a (q.run c s).2.caches

namespace Leaves

variable {P Q : Caches → Prop} {α β : Type} {R : β → Caches → Prop}

theorem pure {b : β} (h : ∀ known, P known → R b known) :
    Leaves P R (Pure.pure b : Query β) := by
  intro c s b' hs hanswer
  cases hanswer
  exact h s.caches hs

theorem bind {x : Query α} {f : α → Query β} (hx : Ensures P Q x)
    (hf : ∀ a, Leaves Q R (f a)) : Leaves P R (x >>= f) := by
  intro c s b hs hanswer
  have hmiddle := hx c s hs
  rw [Query.run_bind] at hanswer ⊢
  rcases hr : x.run c s with ⟨fault | a, s'⟩
  · rw [hr] at hanswer
    cases hanswer
  · rw [hr] at hanswer hmiddle
    exact hf a c s' b hmiddle hanswer

theorem caches_bind {f : Caches → Query β}
    (h : ∀ known, Leaves (fun found => found = known) R (f known)) :
    Leaves (fun _ => True) R (Query.caches >>= f) := by
  intro c s b _ hanswer
  rw [Query.run_bind, Query.run_caches] at hanswer ⊢
  exact h s.caches c s b rfl hanswer

end Leaves

/-- What a resolution answers is kept. -/
theorem leaves_resolve (file : Path) (localName expression : String) :
    Leaves (fun _ => True) (fun resolved known =>
        known.resolutions.get? (file, expression) = some resolved)
      (Query.resolve file localName expression) := by
  refine Leaves.caches_bind fun known => ?_
  cases hget : known.resolutions.get? (file, expression) with
  | some resolved =>
      refine Leaves.pure ?_
      rintro found rfl
      exact hget
  | none =>
      refine Leaves.bind (Q := fun _ => True) (fun _ _ _ => trivial) fun found? => ?_
      let kept := fun found : Caches =>
        found.resolutions.get? (file, expression) = some (found?.map Path.normalize)
      refine Leaves.bind (Q := kept) ?_ fun _ => ?_
      · exact Ensures.modifyCaches fun found _ => OrderedMap.get?_insert_self found.resolutions _ _
      · exact Leaves.bind ((Ensures.compositional _).debug _ _) fun _ => .pure fun _ h => h

theorem leaves_summaryOf (file : Path) :
    Leaves (fun _ => True) (fun summary known => known.summaries.get? file = some summary)
      (Query.summaryOf file) := by
  refine Leaves.caches_bind fun known => ?_
  cases hget : known.summaries.get? file with
  | some summary =>
      refine Leaves.pure ?_
      rintro found rfl
      exact hget
  | none =>
      refine Leaves.bind (Q := fun _ => True) (fun _ _ _ => trivial) fun result => ?_
      let kept := fun found : Caches =>
        found.summaries.get? file = some (Summary.ofLines result.lines)
      refine Leaves.bind (Q := kept) ?_ fun _ => .pure fun _ h => h
      exact Ensures.modifyCaches fun found _ => OrderedMap.get?_insert_self found.summaries file _

theorem leaves_namespaceTable (root : Path) :
    Leaves (fun _ => True) (fun table known => known.namespaces.get? root = some table)
      (Query.namespaceTable root) := by
  refine Leaves.caches_bind fun known => ?_
  cases hget : known.namespaces.get? root with
  | some table =>
      refine Leaves.pure ?_
      rintro found rfl
      exact hget
  | none =>
      refine Leaves.bind (Q := fun _ => True) (fun _ _ _ => trivial) fun context => ?_
      refine Leaves.bind (Q := fun _ => True) (fun _ _ _ => trivial) fun table => ?_
      let kept := fun found : Caches => found.namespaces.get? root = some table
      refine Leaves.bind (Q := kept) ?_ fun _ => ?_
      · exact Ensures.modifyCaches fun found _ =>
          OrderedMap.get?_insert_self found.namespaces root table
      · exact Leaves.bind ((Ensures.compositional _).debug _ _) fun _ => .pure fun _ h => h

section

variable {s : State}

theorem run_resolve_of_get? {file : Path} {expression : String} {resolved : Option Path}
    (h : s.caches.resolutions.get? (file, expression) = some resolved) (c : Context)
    (localName : String) :
    (Query.resolve file localName expression).run c s = (.ok resolved, s) := by
  unfold Query.resolve
  rw [Query.run_bind, Query.run_caches]
  simp only [h]
  rfl

theorem run_summaryOf_of_get? {file : Path} {summary : Summary}
    (h : s.caches.summaries.get? file = some summary) (c : Context) :
    (Query.summaryOf file).run c s = (.ok summary, s) := by
  unfold Query.summaryOf
  rw [Query.run_bind, Query.run_caches]
  simp only [h]
  rfl

theorem run_namespaceTable_of_get? {root : Path} {table : NamespaceTable}
    (h : s.caches.namespaces.get? root = some table) (c : Context) :
    (Query.namespaceTable root).run c s = (.ok table, s) := by
  unfold Query.namespaceTable
  rw [Query.run_bind, Query.run_caches]
  simp only [h]
  rfl

end

/-! ## Runs -/

/-- What happens to a session and around it: it is asked, or the parts it consists of are,
or the world changes, as files are written or removed or variables are set. -/
inductive Occurrence where
  | inquiry (i : Inquiry)
  | resolve (file : Path) (localName expression : String)
  | registryModule (package subPath : String)
  | workspaceRoot (manifestName : String) (depth : Nat) (file : Path)
  | change (world : World)

structure Scene where
  world : World
  state : State

namespace Scene

def ask (c : Context) (scene : Scene) (q : Query α) : Except Fault α × Scene :=
  let (answer, state) := q.run { c with world := scene.world } scene.state
  (answer, { scene with state })

def next (c : Context) (scene : Scene) : Occurrence → Scene
  | .inquiry i => (scene.ask c i.query).2
  | .resolve file localName expression => (scene.ask c (Query.resolve file localName expression)).2
  | .registryModule package subPath => (scene.ask c (Query.registryModule? package subPath)).2
  | .workspaceRoot manifestName depth file =>
      (scene.ask c (Query.workspaceRoot? manifestName depth file)).2
  | .change world => { scene with world }

def after (c : Context) (scene : Scene) (occurrences : List Occurrence) : Scene :=
  occurrences.foldl (next c) scene

end Scene

theorem extends_next (c : Context) (scene : Scene) (o : Occurrence) :
    scene.state.caches.Extends (scene.next c o).state.caches := by
  have hrefl := Caches.Extends.refl scene.state.caches
  have hrules := (fillable_extends scene.state.caches).ofRules
  cases o with
  | inquiry i => exact maintains_inquiry scene.state.caches i _ _ hrefl
  | resolve file localName expression =>
      exact maintains_resolve scene.state.caches file localName expression _ _ hrefl
  | registryModule package subPath => exact hrules.registryModule package subPath _ _ hrefl
  | workspaceRoot manifestName depth file =>
      exact hrules.workspaceRoot manifestName depth file _ _ hrefl
  | change world => exact hrefl

theorem extends_after (c : Context) (scene : Scene) (occurrences : List Occurrence) :
    scene.state.caches.Extends (scene.after c occurrences).state.caches := by
  induction occurrences generalizing scene with
  | nil => exact Caches.Extends.refl _
  | cons o rest ih => exact (extends_next c scene o).trans (ih (scene.next c o))

/-- Once the first query has answered, the second one gives the same answer, whatever occurs
between the two. -/
def AnsweredAgain (c : Context) (first second : Query α) : Prop :=
  ∀ (scene : Scene) (a : α) (between : List Occurrence),
    (scene.ask c first).1 = .ok a →
      (((scene.ask c first).2.after c between).ask c second).1 = .ok a

/-- A query is answered again if its answers are entries that are answered. -/
theorem answeredAgain_of_entry {c : Context} {first second : Query α}
    {Entry : α → Caches → Prop} (hleaves : Leaves (fun _ => True) Entry first)
    (hkeeps : ∀ {before after : Caches} {a},
      before.Extends after → Entry a before → Entry a after)
    (hhit : ∀ {s : State} {a} (d : Context), Entry a s.caches → second.run d s = (.ok a, s)) :
    AnsweredAgain c first second := by
  intro scene a between hanswer
  have hentry := hleaves _ _ a trivial hanswer
  have hlater := hkeeps (extends_after c (scene.ask c first).2 between) hentry
  have hrun := hhit { c with world := ((scene.ask c first).2.after c between).world } hlater
  exact congrArg Prod.fst hrun

/-- Answers stay until they are forgotten. A resolution, a summary and a namespace table
are answered again, a resolution under every local name, and no entry is lost. Only a
notification and a request to forget lose entries: the summary of the file they name, and
a notification all resolutions, and the namespaces if the file is a build script or a
manifest. -/
theorem answered_again (c : Context) :
    (∀ file localName localName' expression,
      AnsweredAgain c (Query.resolve file localName expression)
        (Query.resolve file localName' expression)) ∧
    (∀ file, AnsweredAgain c (Query.summaryOf file) (Query.summaryOf file)) ∧
    (∀ root, AnsweredAgain c (Query.namespaceTable root) (Query.namespaceTable root)) ∧
    (∀ (scene : Scene) (occurrences : List Occurrence),
      scene.state.caches.Extends (scene.after c occurrences).state.caches) ∧
    (∀ (scene : Scene) (path other : Path), other ≠ scene.world.absolute path →
      (scene.ask c (Query.fileChanged path)).2.state.caches.summaries.get? other =
        scene.state.caches.summaries.get? other) ∧
    (∀ (scene : Scene) (file other : Path), other ≠ file →
      (scene.ask c (Query.forgetSummary file)).2.state.caches.summaries.get? other =
        scene.state.caches.summaries.get? other) ∧
    (∀ (scene : Scene) (path : Path),
      (scene.world.absolute path).name ≠ c.settings.layout.buildScript →
      (scene.world.absolute path).name ≠ c.settings.layout.workspaceManifest →
      (scene.ask c (Query.fileChanged path)).2.state.caches.namespaces =
        scene.state.caches.namespaces) := by
  refine ⟨?_, ?_, ?_, extends_after c, ?_, ?_, ?_⟩
  · intro file localName localName' expression
    exact answeredAgain_of_entry (leaves_resolve file localName expression)
      (fun hextends hentry => hextends.resolutions hentry)
      (fun d hentry => run_resolve_of_get? hentry d localName')
  · intro file
    exact answeredAgain_of_entry (leaves_summaryOf file)
      (fun hextends hentry => hextends.summaries hentry)
      (fun d hentry => run_summaryOf_of_get? hentry d)
  · intro root
    exact answeredAgain_of_entry (leaves_namespaceTable root)
      (fun hextends hentry => hextends.namespaces hentry)
      (fun d hentry => run_namespaceTable_of_get? hentry d)
  · intro scene path other hother
    exact (OrderedMap.get?_erase _ _ _).trans (if_neg (Ne.symm hother))
  · intro scene file other hother
    exact (OrderedMap.get?_erase _ _ _).trans (if_neg (Ne.symm hother))
  · intro scene path hscript hmanifest
    have hkept : ¬ ((scene.world.absolute path).name = c.settings.layout.buildScript ||
        (scene.world.absolute path).name = c.settings.layout.workspaceManifest) := by
      simp [hscript, hmanifest]
    exact if_neg hkept

def emptyDirectory : Context where
  world := { tree := ⟨⟨[]⟩⟩, env := ⟨.empty, ⟨.slash, []⟩, [], 0⟩ }
  settings := {}
  registryRoot? := none

/-- A module that is written after a file has asked for it is still not found, though a new
session finds it. A notification of the module leaves the summary of the file. -/
theorem answered_again_lateModule :
    let file : Path := ⟨.slash, ["f.masm"]⟩
    let module : Path := ⟨.slash, ["m.masm"]⟩
    let before : Scene := ⟨emptyDirectory.world, .start⟩
    let written : World :=
      { emptyDirectory.world with
        tree := emptyDirectory.world.tree.writeFile module.parts "proc p\nend\n".toUTF8 }
    let later := (before.ask emptyDirectory (Query.resolve file "m" "m")).2.after emptyDirectory
      [.inquiry (.summaryOf file), .change written]
    (later.ask emptyDirectory (Query.resolve file "n" "m")).1 = .ok none ∧
      ((Scene.mk written .start).ask emptyDirectory (Query.resolve file "n" "m")).1 =
        .ok (some module) ∧
      (later.ask emptyDirectory (Query.fileChanged module)).2.state.caches.summaries.get? file =
        later.state.caches.summaries.get? file ∧
      (later.state.caches.summaries.get? file).isSome := by
  intro file module before written later
  obtain ⟨hresolve, -, -, -, hnotified, -⟩ := answered_again emptyDirectory
  have hfirst : (before.ask emptyDirectory (Query.resolve file "m" "m")).1 = .ok none := by
    decide +kernel
  have hfresh : ((Scene.mk written .start).ask emptyDirectory
      (Query.resolve file "n" "m")).1 = .ok (some module) := by
    decide +kernel
  have hother : file ≠ later.world.absolute module := by decide +kernel
  refine ⟨hresolve file "m" "n" "m" before none _ hfirst, hfresh, ?_, by decide +kernel⟩
  exact hnotified later module file hother

end AsmNavigator.Session
