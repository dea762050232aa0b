import AsmNavigator.Proofs.Session.DefinitionSound
import AsmNavigator.Proofs.Source.ImportParts

/-! # Navigation from an import statement

A word of an import statement that is one of its segments, or its alias, leads to the
beginning of the imported module, or to a constant that the statement may name instead.
A first segment with a dollar sign is no word: the word under the cursor lacks the dollar
sign, so that the other ways to find a definition are tried on it.
-/

namespace AsmNavigator.Session

open Source

variable {c : Context} {path file target : Path} {i : Import} {word : String}

/-- A definition of an import's last segment as a constant in the module of the segments
before it; or the fault with which that module is refused. -/
inductive ConstantInstead (c : Context) (state : State) (path : Path) (i : Import)
    (word : String) : Except Fault (Option Location) → Prop
  | found {target : Path} {place : Location} (hnames : namesConstant i word = true)
      (hmodule : ((Query.resolveImport path (joinSegments i.segments.dropLast)).run c state).1 =
        .ok (some target))
      (hscan : ((Query.scan .constant target word).run c state).1 = .ok (.found place)) :
      ConstantInstead c state path i word (.ok (some place))
  | refused {fault : Fault} (hnames : namesConstant i word = true)
      (hmodule : ((Query.resolveImport path (joinSegments i.segments.dropLast)).run c state).1 =
        .error fault) :
      ConstantInstead c state path i word (.error fault)

theorem ConstantInstead.names {state : State} {a : Except Fault (Option Location)}
    (h : ConstantInstead c state path i word a) : namesConstant i word = true := by
  cases h with
  | found hnames => exact hnames
  | refused hnames => exact hnames

theorem answers_resolveImport (path : Path) (expression : String) :
    Answers c (fun _ => True) (Query.resolveImport path expression)
      (c.resolution (c.world.absolute path) expression) :=
  Answers.read.bind_ok (answers_resolve _ _ _)

theorem answers_importedModule (hresolution : c.resolution file i.path = .ok (some target)) :
    Answers c (fun _ => True) (Query.importedModule? file i) (.ok (some (moduleStart target))) := by
  have hresolve := answers_resolve (c := c) file i.lastSegment i.path
  rw [hresolution] at hresolve
  exact hresolve.bind_ok (.pure _)

/-- The search for an imported constant finds it, or nothing, or is refused. -/
theorem answers_importedConstant (path : Path) {state : State}
    (hcaches : state.caches.Agree c fun _ => True) (hnames : namesConstant i word = true) :
    ∃ a, Answers c (fun _ => True) (Query.importedConstant? (c.world.absolute path) i word) a ∧
      (a = .ok none ∨ ConstantInstead c state path i word a) := by
  have hmodule := (answers_resolveImport path (joinSegments i.segments.dropLast) state hcaches).1
  have hresolve := answers_resolve (c := c) (c.world.absolute path)
    (i.segments.dropLast.getLast?.getD "") (joinSegments i.segments.dropLast)
  unfold Query.importedConstant?
  simp only
  rcases hresolution : c.resolution (c.world.absolute path)
    (joinSegments i.segments.dropLast) with fault | _ | target
  · rw [hresolution] at hmodule hresolve
    exact ⟨_, hresolve.bind_error, .inr (.refused hnames hmodule)⟩
  · rw [hresolution] at hresolve
    exact ⟨_, hresolve.bind_ok (.pure none), .inl rfl⟩
  · rw [hresolution] at hmodule hresolve
    have hscan := Answers.scan (c := c) (K := fun _ => True) .constant target word
    refine ⟨_, hresolve.bind_ok (hscan.bind_ok (.pure _)), ?_⟩
    cases hlookup : definitionIn .constant target word (Source.read c.world target) with
    | found place =>
        rw [hlookup] at hscan
        exact .inr (.found hnames hmodule (hscan state hcaches).1)
    | notFound => exact .inl rfl
    | unreadable => exact .inl rfl

/-- The first way to find a definition at a word that the import mentions. -/
theorem answers_fromImport {state : State} (hcaches : state.caches.Agree c fun _ => True)
    {site : Site} (hfile : site.file = c.world.absolute path)
    (himport : import? site.line.toList = some i) (hmentions : i.Mentions site.word.text)
    (hresolution : c.resolution (c.world.absolute path) i.path = .ok (some target)) :
    ∃ a, Answers c (fun _ => True) (Query.fromImport site) a ∧
      (a = .ok (some (moduleStart target)) ∨ ConstantInstead c state path i site.word.text a) := by
  have hmodule := answers_importedModule hresolution
  rw [← hfile] at hmodule
  unfold Query.fromImport
  rw [himport]
  simp only
  by_cases halias : i.alias? = some site.word.text
  · rw [if_pos halias]
    exact ⟨_, hmodule.bind_ok (.pure _), .inl rfl⟩
  · have hsegment : site.word.text ∈ i.segments := hmentions.resolve_right halias
    have hcontains : (!i.segments.contains site.word.text) = false := by
      rw [List.contains_iff_mem.mpr hsegment]
      rfl
    rw [if_neg halias, hcontains]
    simp only [Bool.false_eq_true, if_false]
    by_cases hnames : namesConstant i site.word.text = true
    · rw [if_pos hnames]
      obtain ⟨a, ha, hcases⟩ := answers_importedConstant path hcaches hnames
      rw [← hfile] at ha
      rcases hcases with rfl | hinstead
      · refine ⟨_, Answers.bind_ok (v := none) (.pure none) ?_, .inl rfl⟩
        exact ha.bind_ok hmodule
      · refine ⟨a, Answers.bind_ok (v := none) (.pure none) ?_, .inr hinstead⟩
        cases hinstead with
        | found => exact ha.bind_ok (.pure _)
        | refused => exact ha.bind_error
    · rw [if_neg hnames]
      refine ⟨_, Answers.bind_ok (v := none) (.pure none) ?_, .inl rfl⟩
      exact Answers.bind_ok (v := none) (.pure none) hmodule

/-- At a word that the import mentions nothing but the import is asked. -/
theorem answers_definition_of_mentions {state : State}
    (hcaches : state.caches.Agree c fun _ => True) {line : String} {column : Int} {w : Word}
    (hnavigable : navigableWord? line column = some w) (himport : import? line.toList = some i)
    (hmentions : i.Mentions w.text)
    (hresolution : c.resolution (c.world.absolute path) i.path = .ok (some target)) :
    ∃ a, Answers c (fun _ => True) (Query.definition path line column) a ∧
      (a = .ok (some (moduleStart target)) ∨ ConstantInstead c state path i w.text a) := by
  let site : Site := ⟨c.world.absolute path, line, w, c.summary (c.world.absolute path)⟩
  have hfile : site.file = c.world.absolute path := rfl
  obtain ⟨a, ha, hcases⟩ := answers_fromImport hcaches hfile himport hmentions hresolution
  have hfirst : Answers c (fun _ => True) (Query.byStrategy site .fromImport) a := ha
  have hfound : a ≠ .ok none := by
    rintro rfl
    rcases hcases with hstart | hinstead
    · cases hstart
    · cases hinstead
  refine ⟨a, ?_, hcases⟩
  unfold Query.definition Query.definitionBy
  refine Answers.read.bind_ok ?_
  simp only [hnavigable]
  refine (answers_summaryOf _).bind_ok ?_
  exact hfirst.tryStrategies_cons hfound _

/-- At a word that the import does not mention, the other ways are tried. -/
theorem tryStrategies_of_not_mentions {file : Path} {line : String} {w : Word}
    (himport : import? line.toList = some i) (hmentions : ¬ i.Mentions w.text)
    (summary : Summary) :
    Query.tryStrategies ⟨file, line, w, summary⟩ Strategy.all =
      Query.tryStrategies ⟨file, line, w, summary⟩ Strategy.all.tail := by
  obtain ⟨hsegments, halias⟩ := not_or.mp hmentions
  have hcontains : (!i.segments.contains w.text) = true := by
    rw [Bool.not_eq_true', Bool.eq_false_iff]
    exact fun h => hsegments (List.contains_iff_mem.mp h)
  have hnone : Query.byStrategy ⟨file, line, w, summary⟩ .fromImport = pure none := by
    unfold Query.byStrategy Query.fromImport
    simp only [himport, hcontains, if_neg halias, if_true]
    rfl
  unfold Query.tryStrategies Strategy.all Query.firstHit List.tail
  simp only [hnone, pure_bind]
  rfl

/-- Every segment of an import statement and its alias have a place in the line. At a word
inside one of them the import decides, if it mentions the word, as it does unless the part
begins with a dollar sign: the definition is the beginning of the imported module, or, for
the last segment, a constant in the module of the segments before it, which may be refused.
If the import does not mention the word, the other ways to find a definition are tried. -/
theorem definition_at_import {state : State} (hcaches : state.caches.Agree c fun _ => True)
    {line : String} (himport : import? line.toList = some i)
    (hresolves : ((Query.resolveImport path i.path).run c state).1 = .ok (some target)) :
    (∀ above part below, i.segments = above ++ part :: below →
      ∃ before, i.PartAt line.toList before part) ∧
    (∀ part, i.alias? = some part → ∃ before, i.PartAt line.toList before part) ∧
    ∀ (before : List Char) (part : String) (column : Int) (w : Word),
      i.PartAt line.toList before part → wordAt line column = some w →
      before.length ≤ w.start → w.stop ≤ before.length + part.length →
        let defined := ((Query.definition path line column).run c state).1
        (part.toList.head? ≠ some '$' → w.text = part ∧ i.Mentions w.text) ∧
        (i.Mentions w.text → defined = .ok (some (moduleStart target)) ∨
          ConstantInstead c state path i w.text defined) ∧
        (¬ i.Mentions w.text →
          defined = ((Query.definitionBy Strategy.all.tail path line column).run c state).1) := by
  have hresolution : c.resolution (c.world.absolute path) i.path = .ok (some target) := by
    rw [← hresolves]
    exact (answers_resolveImport path i.path state hcaches).1.symm
  obtain ⟨hsegments, hnames⟩ := Import.exists_partAt himport
  refine ⟨hsegments, hnames, ?_⟩
  intro before part column w hpart hword hlow hhigh defined
  have hnavigable : navigableWord? line column = some w := by
    have hle : w.start ≤ before.length + part.length := by
      unfold Word.stop at hhigh
      omega
    unfold navigableWord? Word.before
    rw [hword, Option.filter_some, hpart.isExcluded_before hle]
    rfl
  refine ⟨?_, ?_, ?_⟩
  · intro hdollar
    have htext : w.text = part :=
      hpart.eq_of_inside hdollar (isToken_of_wordAt hword) hlow hhigh
    rw [htext]
    exact ⟨rfl, hpart.mentions⟩
  · intro hmentions
    obtain ⟨a, ha, hcases⟩ :=
      answers_definition_of_mentions hcaches hnavigable himport hmentions hresolution
    have hdefined : defined = a := (ha state hcaches).1
    rw [hdefined]
    exact hcases
  · intro hmentions
    have hskip : Query.definitionBy Strategy.all path line column =
        Query.definitionBy Strategy.all.tail path line column := by
      unfold Query.definitionBy
      simp only [hnavigable, tryStrategies_of_not_mentions himport hmentions]
    exact congrArg (fun q => (Query.run q c state).1) hskip

def libraryFile : Context where
  world :=
    { tree := ⟨⟨[(["f.masm"], .file "use $kernel::c".toUTF8),
        (["lib"], .directory), (["lib", "c.masm"], .file "proc q".toUTF8)]⟩⟩
      env := ⟨.empty, ⟨.slash, []⟩, [], 0⟩ }
  settings := {}
  registryRoot? := none

/-- The second segment leads to the module, the first one nowhere. -/
theorem definition_libraryFile :
    let line := "use $kernel::c"
    let file : Path := ⟨.slash, ["f.masm"]⟩
    let target : Path := ⟨.slash, ["lib", "c.masm"]⟩
    ((Query.resolveImport file "$kernel::c").run libraryFile .start).1 = .ok (some target) ∧
      ((Query.definition file line 13).run libraryFile .start).1 = .ok (some ⟨target, 0, 0⟩) ∧
      ((Query.definition file line 6).run libraryFile .start).1 = .ok none := by
  intro line file target
  let i : Import := ⟨["$kernel", "c"], none⟩
  have himport : import? line.toList = some i := by decide +kernel
  have hresolves : ((Query.resolveImport file i.path).run libraryFile .start).1 =
      .ok (some target) := by
    decide +kernel
  have hspace : IsSeparator [' '] := by decide
  have hindent : AreBlank [] := by decide
  have hopens : OpensImport "use ".toList := .intro hindent hspace
  have hstands : i.StandsIn line.toList "use ".toList [] :=
    ⟨hopens, by decide +kernel, by simp, areSegments_of_import? himport, by simp [i]⟩
  have hagree : State.start.caches.Agree libraryFile fun _ => True := Caches.agree_empty _ _
  have hfirst : i.PartAt line.toList "use ".toList "$kernel" :=
    .segment hstands (show i.segments = [] ++ "$kernel" :: ["c"] from rfl)
  have hsecond : i.PartAt line.toList "use $kernel::".toList "c" :=
    .segment hstands (show i.segments = ["$kernel"] ++ "c" :: [] from rfl)
  obtain ⟨-, -, hparts⟩ := definition_at_import hagree himport hresolves
  obtain ⟨hpart, hmentioned, -⟩ := hparts _ _ 13 ⟨"c", 13⟩ hsecond (by decide +kernel)
    (by decide) (by decide)
  obtain ⟨-, -, hskipped⟩ := hparts _ _ 6 ⟨"kernel", 5⟩ hfirst (by decide +kernel)
    (by decide) (by decide)
  refine ⟨hresolves, ?_, ?_⟩
  · rcases hmentioned (hpart (by decide)).2 with hstart | hinstead
    · exact hstart
    · exact absurd hinstead.names (by decide)
  · have hunmentioned : ¬ i.Mentions "kernel" := by
      unfold Import.Mentions
      decide
    rw [hskipped hunmentioned]
    decide +kernel

end AsmNavigator.Session
