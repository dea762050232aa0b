import AsmNavigator.Files.World
import AsmNavigator.Proofs.Files.Join

/-! # Paths below a home directory

A path with a leading `~` replaced consists of components of its own and of the home
directory. It can be had unless the home directory is not known, and it is left alone when it
is read again.
-/

namespace AsmNavigator.Environment

variable {env : Environment} {p expanded : Path}

/-- The components of an expanded path come from the path and from the text of a home directory. -/
theorem mem_parts_expandHome (h : env.expandHome p = .ok expanded) {part : String}
    (hpart : part ∈ expanded.parts) :
    part ∈ p.parts ∨ ∃ home, part ∈ (Path.ofString home).parts := by
  unfold expandHome at h
  split at h
  · next first rest _ hparts =>
      split at h
      · split at h
        · cases h
        · split at h
          · cases h
          · next home _ _ =>
              cases h
              rcases List.mem_append.mp hpart with hpart | hpart
              · exact .inr ⟨home, hpart⟩
              · left
                rw [hparts]
                exact List.mem_cons_of_mem _ hpart
      · cases h
        exact .inl hpart
  · cases h
    exact .inl hpart

theorem isClean_expandHome (h : env.expandHome p = .ok expanded) (hp : p.IsClean) :
    expanded.IsClean := by
  intro part hpart
  rcases mem_parts_expandHome h hpart with hpart | ⟨home, hpart⟩
  · exact hp part hpart
  · exact Path.isClean_ofString home part hpart

/-- An absolute path begins with no home directory. -/
theorem expandHome_of_isAbsolute (h : p.isAbsolute = true) : env.expandHome p = .ok p := by
  obtain ⟨root, parts⟩ := p
  cases root with
  | none => cases h
  | slash => rfl
  | doubleSlash => rfl

theorem eq_noHome_of_expandHome {fault : Fault} (h : env.expandHome p = .error fault) :
    fault = .noHome := by
  unfold expandHome at h
  split at h
  · split at h
    · split at h
      · cases h
        rfl
      · split at h <;> cases h
        rfl
    · cases h
  · cases h

end AsmNavigator.Environment
