import AsmNavigator.Proofs.Session.CachedResolver
import AsmNavigator.Proofs.Workspace.UpwardSearch

/-! # Roots and libraries above a file

The root of a workspace, the root of a project and the module of an alias are all searched
for upwards from a file. The roots are the nearest directories with what makes them a root,
and what is found at some depth is found at every greater depth.
-/

namespace AsmNavigator

/-! ## What makes a directory a root -/

theorem Text.containsText_iff (part cs : List Char) :
    containsText part cs = true ↔ part <:+: cs := by
  induction cs with
  | nil => simp [containsText]
  | cons c rest ih =>
      rw [containsText, Bool.or_eq_true, List.isPrefixOf_iff_prefix, ih, List.infix_cons_iff]

namespace Workspace

variable {w : World}

/-- The directory has a manifest that is a file with the text that marks a workspace. -/
def HoldsManifest (w : World) (manifestName : String) (directory : Path) : Prop :=
  ∃ bytes, w.tree.stat w.env.cwd (directory / manifestName) = .ok (.file bytes) ∧
    workspaceMarker.toList <:+: (Text.Utf8.decode bytes).toList

def HoldsLibrary (w : World) (libraryDir : String) (directory : Path) : Prop :=
  w.tree.stat w.env.cwd (directory / libraryDir) = .ok .directory

theorem isWorkspaceManifest_of_stat {manifest : Path} {bytes : ByteArray}
    (h : w.tree.stat w.env.cwd manifest = .ok (.file bytes)) :
    isWorkspaceManifest w manifest =
      .ok (Text.containsText workspaceMarker.toList (Text.Utf8.decode bytes).toList) := by
  have hread : w.readText manifest = .ok (Text.Utf8.decode bytes) := by
    unfold World.readText FileTree.readText
    rw [FileTree.readBytes_of_stat h]
    rfl
  unfold isWorkspaceManifest
  rw [hread]
  rfl

theorem workspaceRoot_findsNearest (w : World) (manifestName : String) (file : Path)
    (depth : Nat) :
    FindsNearest (HoldsManifest w manifestName)
      (fun directory => w.isFile (directory / manifestName)) file depth
      (workspaceRoot? w manifestName depth file) := by
  refine findsNearest_firstDirectory (fun directory holds h => ?_) (fun directory fault h => ?_)
    file depth
  · obtain ⟨isFile, hfile, h⟩ := bind_eq_ok.mp h
    cases isFile with
    | false =>
        cases h
        refine iff_of_false Bool.false_ne_true ?_
        rintro ⟨bytes, hstat, -⟩
        cases hfile.symm.trans (FileTree.isFile_iff.mpr ⟨bytes, hstat⟩)
    | true =>
        obtain ⟨bytes, hstat⟩ := FileTree.isFile_iff.mp hfile
        cases (isWorkspaceManifest_of_stat hstat).symm.trans h
        rw [Text.containsText_iff]
        constructor
        · exact fun hinfix => ⟨bytes, hstat, hinfix⟩
        · rintro ⟨content, hcontent, hinfix⟩
          cases hstat.symm.trans hcontent
          exact hinfix
  · rcases bind_eq_error.mp h with hfile | ⟨isFile, hfile, h⟩
    · exact hfile
    · cases isFile with
      | false => cases h
      | true =>
          obtain ⟨bytes, hstat⟩ := FileTree.isFile_iff.mp hfile
          cases (isWorkspaceManifest_of_stat hstat).symm.trans h

theorem projectRoot_findsNearest (w : World) (libraryDir : String) (file : Path) (depth : Nat) :
    FindsNearest (HoldsLibrary w libraryDir)
      (fun directory => w.isDirectory (directory / libraryDir)) file depth
      (projectRoot? w libraryDir depth file) := by
  refine findsNearest_firstDirectory (fun directory holds h => ?_) (fun _ _ h => h) file depth
  unfold HoldsLibrary
  rw [← FileTree.isDirectory_iff, show w.tree.isDirectory _ _ = .ok holds from h]
  simp

/-! ## Greater depths -/

/-- What a search finds at some depth it finds at every greater depth. -/
def KeepsHits (search : Nat → Except Fault (Option Path)) : Prop :=
  ∀ ⦃depth depth' : Nat⦄ ⦃found : Path⦄, depth ≤ depth' → search depth = .ok (some found) →
    search depth' = .ok (some found)

theorem keepsHits_firstHit (f : Path → Except Fault (Option Path)) (p : Path) :
    KeepsHits fun depth => firstHit f (p.ancestors depth) :=
  fun _ _ _ hdepth h => firstHit_of_isPrefix (p.ancestors_isPrefix hdepth) h

end Workspace

/-! ## Expressions that begin with a dollar sign -/

theorem Source.exists_splitSegments_of_dollar {expression : String}
    (h : expression.toList.head? = some '$') :
    ∃ head rest, splitSegments expression = head :: rest ∧ head.toList.head? = some '$' := by
  show ∃ head rest, (Text.splitSkipping [':', ':'] 0 expression.toList).map String.ofList =
    head :: rest ∧ head.toList.head? = some '$'
  obtain ⟨chars, hchars⟩ := List.head?_eq_some_iff.mp h
  have hsplit : Text.splitSkipping [':', ':'] 0 ('$' :: chars) =
      Text.consHead '$' (Text.splitSkipping [':', ':'] 0 chars) := by
    simp [Text.splitSkipping, List.isPrefixOf]
  rw [hchars, hsplit]
  cases Text.splitSkipping [':', ':'] 0 chars with
  | nil => exact ⟨_, _, rfl, by simp⟩
  | cons piece rest => exact ⟨_, _, rfl, by simp⟩

namespace Session

open Workspace

def Context.withAliasDepth (c : Context) (depth : Nat) : Context :=
  { c with settings.layout.maxAliasDepth := depth }

theorem keepsHits_aliased (c : Context) (file : Path) (segments : List String) :
    KeepsHits fun depth => (c.withAliasDepth depth).aliased file segments := by
  intro depth depth' found hdepth h
  unfold Context.aliased at h ⊢
  cases hlast : segments.getLast? with
  | none =>
      simp only [hlast] at h
      cases h
  | some last =>
      simp only [hlast] at h ⊢
      exact keepsHits_firstHit _ _ hdepth h

theorem exists_alias_of_dollar {expression : String} (h : expression.toList.head? = some '$') :
    ∃ segments, ImportRule.ofExpression expression = .alias segments := by
  obtain ⟨head, rest, hsplit, hdollar⟩ := Source.exists_splitSegments_of_dollar h
  have hmiden : head ≠ "miden" := by
    rintro rfl
    exact absurd hdollar (by decide)
  have hstd : head ≠ "std" := by
    rintro rfl
    exact absurd hdollar (by decide)
  refine ⟨rest, ?_⟩
  unfold ImportRule.ofExpression
  rw [hsplit, ImportRule.ofSegments.eq_3 head rest (fun _ _ _ heq _ => hmiden heq)
    (fun _ _ heq _ => hstd heq), if_pos hdollar]

theorem keepsHits_freshResolution (c : Context) (file : Path) (localName : String)
    {expression : String} (h : expression.toList.head? = some '$') :
    KeepsHits fun depth =>
      (c.withAliasDepth depth).freshResolution file localName expression := by
  obtain ⟨segments, halias⟩ := exists_alias_of_dollar h
  intro depth depth' found hdepth hfound
  simp only [freshResolution_eq, Context.resolution, halias] at hfound ⊢
  obtain ⟨found?, hsearch, hnormal⟩ := bind_eq_ok.mp hfound
  cases found? with
  | none => cases hnormal
  | some path => exact bind_eq_ok.mpr ⟨_, keepsHits_aliased c file segments hdepth hsearch, hnormal⟩

/-- A search upwards ends at the nearest directory with what it looks for, and what it finds
at some depth it finds at every greater depth, the module of an alias included. -/
theorem upward_walks_find_nearest (c : Context) (file : Path) :
    (∀ manifestName, (∀ depth, FindsNearest (HoldsManifest c.world manifestName)
          (fun directory => c.world.isFile (directory / manifestName)) file depth
          (workspaceRoot? c.world manifestName depth file)) ∧
        KeepsHits fun depth => workspaceRoot? c.world manifestName depth file) ∧
      (∀ libraryDir, (∀ depth, FindsNearest (HoldsLibrary c.world libraryDir)
          (fun directory => c.world.isDirectory (directory / libraryDir)) file depth
          (projectRoot? c.world libraryDir depth file)) ∧
        KeepsHits fun depth => projectRoot? c.world libraryDir depth file) ∧
      ∀ localName expression, expression.toList.head? = some '$' →
        KeepsHits fun depth =>
          (c.withAliasDepth depth).freshResolution file localName expression := by
  refine ⟨fun manifestName => ⟨workspaceRoot_findsNearest c.world manifestName file, ?_⟩,
    fun libraryDir => ⟨projectRoot_findsNearest c.world libraryDir file, ?_⟩,
    fun localName expression => keepsHits_freshResolution c file localName⟩
  · exact keepsHits_firstHit _ file.parent
  · exact keepsHits_firstHit _ file.parent

end Session

end AsmNavigator
