import AsmNavigator.Proofs.Data.OrderedMap
import AsmNavigator.Proofs.Data.Outcome
import AsmNavigator.Workspace.Namespaces

/-! # Where the entries of a namespace table come from

Every entry stands for a binding in the build script of one of the crates.
-/

namespace AsmNavigator.Workspace

open Config BuildScript

def EntriesSatisfy (P : Path → String → Prop) (table : NamespaceTable) : Prop :=
  ∀ entry ∈ table.entries, P entry.2.crateDir entry.2.subdir

namespace EntriesSatisfy

variable {P : Path → String → Prop} {table : NamespaceTable}

theorem addBinding (h : EntriesSatisfy P table) {crateDir : Path} {binding : Binding}
    (hbinding : P crateDir binding.subdir) :
    EntriesSatisfy P (NamespaceTable.addBinding crateDir table binding) := by
  intro entry hentry
  have hnew : entry ∈ table.entries ∨
      entry = (binding.namespaceName, ⟨binding.namespaceName, crateDir, binding.subdir⟩) := by
    unfold NamespaceTable.addBinding at hentry
    simp only at hentry
    split at hentry
    · exact OrderedMap.mem_entries_insert hentry
    · exact OrderedMap.mem_entries_insertIfNew hentry
  rcases hnew with hold | heq
  · exact h entry hold
  · rw [heq]
    exact hbinding

theorem foldl_addBinding (h : EntriesSatisfy P table) {crateDir : Path} {bindings : List Binding}
    (hbindings : ∀ binding ∈ bindings, P crateDir binding.subdir) :
    EntriesSatisfy P (bindings.foldl (NamespaceTable.addBinding crateDir) table) := by
  induction bindings generalizing table with
  | nil => exact h
  | cons binding rest ih =>
      exact ih (h.addBinding (hbindings binding (by simp)))
        fun b hb => hbindings b (List.mem_cons_of_mem _ hb)

theorem foldlM_addCrate {w : World} {layout : Layout} {registry : Config.Registry}
    (h : EntriesSatisfy P table) {crates : List Path}
    (hcrates : ∀ crate ∈ crates, ∀ found,
      NamespaceTable.bindingsOf w layout registry crate = .ok found →
        ∀ binding ∈ found, P crate binding.subdir)
    {result : NamespaceTable}
    (hresult : crates.foldlM (NamespaceTable.addCrate w layout registry) table = .ok result) :
    EntriesSatisfy P result := by
  refine foldlM_keeps (fun crate hcrate acc next hacc hnext => ?_) h hresult
  obtain ⟨found, hfound, hnext⟩ := bind_eq_ok.mp hnext
  cases hnext
  exact hacc.foldl_addBinding (hcrates crate hcrate found hfound)

theorem discover {w : World} {layout : Layout} {registry : Config.Registry} {root : Path}
    (hcrates : ∀ crates, subdirectories w (root / layout.cratesDir) = .ok crates →
      ∀ crate ∈ crates, ∀ found,
        NamespaceTable.bindingsOf w layout registry crate = .ok found →
          ∀ binding ∈ found, P crate binding.subdir)
    (h : NamespaceTable.discover w layout registry root = .ok table) :
    EntriesSatisfy P table := by
  unfold NamespaceTable.discover at h
  obtain ⟨crates, hlisted, h⟩ := bind_eq_ok.mp h
  have hempty : EntriesSatisfy P OrderedMap.empty := by
    intro entry hentry
    cases hentry
  exact hempty.foldlM_addCrate (hcrates crates hlisted) h

theorem lookup? (h : EntriesSatisfy P table) {name : String} {entry : NamespaceEntry}
    (hentry : table.lookup? name = some entry) : P entry.crateDir entry.subdir := by
  unfold NamespaceTable.lookup? at hentry
  rcases Option.or_eq_some_iff.mp hentry with hget | ⟨-, hget⟩
  · exact h _ (OrderedMap.mem_of_get? hget)
  · split at hget
    · cases hget
    · exact h _ (OrderedMap.mem_of_get? hget)

end EntriesSatisfy

end AsmNavigator.Workspace
