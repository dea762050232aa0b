import AsmNavigator.Proofs.Files.Edit
import AsmNavigator.Proofs.Session.Agreement
import AsmNavigator.Proofs.Workspace.ScriptTables

/-! # What the caches depend on

A summary depends on its own file, and the namespaces of a workspace on build scripts.
Caches that agree with one tree agree with another as well if they have forgotten every
file in which the two differ.
-/

namespace AsmNavigator.Session

open Config Source Workspace

def Context.over (c : Context) (tree : FileTree) : Context :=
  { c with world := ⟨tree, c.world.env⟩ }

@[simp] theorem Context.over_settings (c : Context) (tree : FileTree) :
    (c.over tree).settings = c.settings := rfl

variable {c : Context} {old new : FileTree}

/-- Of all regular files a summary depends on the one it is a summary of. -/
theorem summary_over (hold : old.IsPlain) (hnew : new.IsPlain) {file : Path} (hfile : file.IsDirect)
    (hsame : new.fileAt file.parts = old.fileAt file.parts) :
    (c.over new).summary file = (c.over old).summary file := by
  have hread : ∀ bytes, new.readBytes c.world.env.cwd file = .ok bytes ↔
      old.readBytes c.world.env.cwd file = .ok bytes := by
    intro bytes
    rw [hnew.readBytes_ok_iff hfile, hold.readBytes_ok_iff hfile, hsame]
  unfold Context.summary Source.read World.readText FileTree.readText Context.over
  simp only
  cases hold : old.readBytes c.world.env.cwd file with
  | ok bytes => rw [(hread bytes).mpr hold]
  | error fault =>
      cases hnew : new.readBytes c.world.env.cwd file with
      | ok bytes =>
          rw [(hread bytes).mp hnew] at hold
          cases hold
      | error fault' => rfl

/-- Of all regular files the namespaces of a workspace depend on build scripts. -/
theorem table_over (hold : old.IsPlain) (hnew : new.IsPlain)
    (hscript : IsPlainScript c.settings.layout) {root : Path} (hroot : root.IsDirect)
    (hscripts : ∀ {place}, place.getLast? = some c.settings.layout.buildScript →
      new.fileAt place = old.fileAt place)
    (hunreachable : ∀ {place}, ¬ (Path.mk .slash place).Expressible →
      new.entryAt? place = old.entryAt? place) :
    (c.over new).table root = (c.over old).table root :=
  discover_congr hold hnew hscript hroot hscripts hunreachable

namespace Caches

/-- Nothing in the caches depends on a file. -/
structure Forgot (layout : Layout) (file : Path) (caches : Caches) : Prop where
  summary : caches.summaries.get? file = none
  resolutions : caches.resolutions = .empty
  namespaces : file.name = layout.buildScript → caches.namespaces = .empty

theorem Agree.over {caches : Caches} (h : caches.Agree (c.over old) Path.IsDirect)
    (hold : old.IsPlain) (hnew : new.IsPlain) (hscript : IsPlainScript c.settings.layout)
    {changed : List (List String)} (hdiffers : FileTree.DiffersOnlyAt changed old new)
    (hforgot : ∀ {place}, place ∈ changed → caches.Forgot c.settings.layout ⟨.slash, place⟩) :
    caches.Agree (c.over new) Path.IsDirect := by
  by_cases hnone : changed = []
  · rw [hdiffers.same hnone]
    exact h
  obtain ⟨changedPlace, hchanged⟩ := List.exists_mem_of_ne_nil changed hnone
  refine ⟨?_, ?_, ?_⟩
  · intro file summary hget
    obtain ⟨hfile, rfl⟩ := h.summaries hget
    have hunchanged : file.parts ∉ changed := by
      intro hmem
      have hnot := (hforgot hmem).summary
      rw [← hfile.root, hget] at hnot
      cases hnot
    exact ⟨hfile, (summary_over hold hnew hfile (hdiffers.files hunchanged)).symm⟩
  · intro file expression resolved hget
    rw [(hforgot hchanged).resolutions] at hget
    cases hget
  · intro root table hget
    obtain ⟨hroot, htable⟩ := h.namespaces hget
    refine ⟨hroot, ?_⟩
    rw [table_over hold hnew hscript hroot ?_ hdiffers.unreachable]
    · exact htable
    · intro place hname
      refine hdiffers.files fun hmem => ?_
      have hnot := (hforgot hmem).namespaces (by simp [Path.name, hname])
      rw [hnot] at hget
      cases hget

end Caches

end AsmNavigator.Session
