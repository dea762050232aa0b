import AsmNavigator.Proofs.Data.Outcome
import AsmNavigator.Proofs.Files.Refusal
import AsmNavigator.Workspace.Module

/-! # What is listed in a directory

A listing of subdirectories names children of the directory that are directories
themselves. It is empty rather than refused, as long as the path of the directory can be
handed to the operating system.
-/

namespace AsmNavigator.Workspace

variable {w : World} {p : Path}

theorem firstHit_congr {f g : α → Except Fault (Option β)} {xs : List α}
    (h : ∀ x ∈ xs, f x = g x) : firstHit f xs = firstHit g xs := by
  induction xs with
  | nil => rfl
  | cons head rest ih =>
      unfold firstHit
      rw [h head (by simp), ih fun x hx => h x (List.mem_cons_of_mem _ hx)]

theorem exists_of_firstHit_eq_some {α β : Type} {f : α → Except Fault (Option β)} {xs : List α}
    {b : β} (h : firstHit f xs = .ok (some b)) :
    ∃ before x after, xs = before ++ x :: after ∧ (∀ y ∈ before, f y = .ok none) ∧
      f x = .ok (some b) := by
  induction xs with
  | nil => cases h
  | cons head rest ih =>
      obtain ⟨found?, hhead, h⟩ := bind_eq_ok.mp h
      cases found? with
      | some found =>
          cases h
          exact ⟨[], head, rest, rfl, by simp, hhead⟩
      | none =>
          obtain ⟨before, x, after, rfl, hbefore, hx⟩ := ih h
          refine ⟨head :: before, x, after, rfl, ?_, hx⟩
          intro y hy
          rcases List.mem_cons.mp hy with rfl | hy
          · exact hhead
          · exact hbefore y hy

theorem eq_none_of_firstHit_eq_none {α β : Type} {f : α → Except Fault (Option β)} {xs : List α}
    (h : firstHit f xs = .ok none) {x : α} (hx : x ∈ xs) : f x = .ok none := by
  induction xs with
  | nil => cases hx
  | cons head rest ih =>
      obtain ⟨found?, hhead, h⟩ := bind_eq_ok.mp h
      cases found? with
      | some found => cases h
      | none =>
          rcases List.mem_cons.mp hx with rfl | hx
          · exact hhead
          · exact ih h hx

theorem exists_of_firstHit_error {α β : Type} {f : α → Except Fault (Option β)} {xs : List α}
    {fault : Fault} (h : firstHit f xs = .error fault) : ∃ x ∈ xs, f x = .error fault := by
  induction xs with
  | nil => cases h
  | cons head rest ih =>
      rcases bind_eq_error.mp h with hhead | ⟨found?, -, h⟩
      · exact ⟨head, by simp, hhead⟩
      · cases found? with
        | some found => cases h
        | none =>
            obtain ⟨x, hx, hfault⟩ := ih h
            exact ⟨x, List.mem_cons_of_mem _ hx, hfault⟩

/-! ## Refusals that are passed over -/

theorem of_orOnRefusal_ok {fallback a : α} {x : Except Fault α}
    (h : orOnRefusal fallback x = .ok a) : x = .ok a ∨ a = fallback := by
  unfold orOnRefusal at h
  split at h
  · cases h
    exact .inr rfl
  · exact .inl h

theorem of_orOnRefusal_error {fallback : α} {x : Except Fault α} {fault : Fault}
    (h : orOnRefusal fallback x = .error fault) :
    x = .error fault ∧ ∀ cause text, fault ≠ .os cause text := by
  unfold orOnRefusal at h
  split at h
  · cases h
  · next hother =>
      refine ⟨h, ?_⟩
      rintro cause text rfl
      exact hother cause text h

theorem exists_orOnRefusal {x : Except Fault α}
    (h : ∀ fault, x = .error fault → ∃ cause text, fault = .os cause text) (fallback : α) :
    ∃ a, orOnRefusal fallback x = .ok a := by
  cases houtcome : orOnRefusal fallback x with
  | ok a => exact ⟨a, rfl⟩
  | error fault =>
      obtain ⟨hx, hother⟩ := of_orOnRefusal_error houtcome
      obtain ⟨cause, text, rfl⟩ := h fault hx
      exact absurd rfl (hother cause text)

/-! ## Subdirectories -/

theorem exists_of_mem_subdirectories {found : List Path} (h : subdirectories w p = .ok found)
    {d : Path} (hd : d ∈ found) :
    ∃ names name, w.list p = .ok names ∧ name ∈ names ∧ d = p.below [name] ∧
      w.isDirectory d = .ok true := by
  rcases of_orOnRefusal_ok h with h | rfl
  · obtain ⟨names, hlist, h⟩ := bind_eq_ok.mp h
    obtain ⟨directories, hfilter, h⟩ := bind_eq_ok.mp h
    cases h
    obtain ⟨name, hname, rfl⟩ := List.mem_map.mp hd
    obtain ⟨hmem, hdirectory⟩ := mem_of_filterM hfilter (List.mem_mergeSort.mp hname)
    exact ⟨names, name, hlist, hmem, rfl, hdirectory⟩
  · cases hd

/-- If every child can be asked, the subdirectories are listed by name, all of them. -/
theorem subdirectories_of_list {names : List String} (hlist : w.list p = .ok names)
    (hasked : ∀ name ∈ names, ∃ holds, w.isDirectory (p.below [name]) = .ok holds) :
    ∃ found : List String, subdirectories w p = .ok (found.map fun name => p.below [name]) ∧
      found.Pairwise (· ≤ ·) ∧
      found.Perm (names.filter fun name => w.isDirectory (p.below [name]) = .ok true) := by
  choose! holds hholds using hasked
  have hfilter : names.filterM (fun name => w.isDirectory (p / Path.relative [name])) =
      .ok (names.filter holds) := filterM_ok hholds
  refine ⟨(names.filter holds).mergeSort (· ≤ ·), ?_, ?_, ?_⟩
  · unfold subdirectories
    rw [hlist]
    simp only [bind, Except.bind, hfilter]
    rfl
  · have hsorted : ((names.filter holds).mergeSort (· ≤ ·)).Pairwise
        fun a b : String => decide (a ≤ b) :=
      List.pairwise_mergeSort (by simpa using fun a b c => String.le_trans)
        (by simpa using String.le_total) _
    simpa using hsorted
  · have hsame : names.filter holds =
        names.filter fun name => w.isDirectory (p.below [name]) = .ok true :=
      List.filter_congr fun name hname => by
        rw [hholds name hname]
        cases holds name <;> rfl
    rw [hsame]
    exact List.mergeSort_perm _ _

/-- A child that is refused spoils the listing. -/
theorem subdirectories_of_refused {names : List String} (hlist : w.list p = .ok names)
    {name : String} (hname : name ∈ names) {fault : Fault}
    (hrefused : w.isDirectory (p.below [name]) = .error fault) :
    subdirectories w p = .ok [] := by
  obtain ⟨refusal, hfilter⟩ := exists_filterM_error
    (f := fun name => w.isDirectory (p / Path.relative [name])) hname hrefused
  obtain ⟨other, -, hother⟩ := exists_of_filterM_error hfilter
  obtain ⟨rfl, -⟩ := FileTree.isOverLong_of_isDirectory hother
  unfold subdirectories
  rw [hlist]
  simp only [bind, Except.bind, hfilter]
  rfl

/-- A listing that names anything names all subdirectories, in order. -/
theorem subdirectories_of_mem {found : List Path} (h : subdirectories w p = .ok found) {d : Path}
    (hd : d ∈ found) :
    ∃ names listed : List String, w.list p = .ok names ∧
      found = listed.map (fun name => p.below [name]) ∧ listed.Pairwise (· ≤ ·) ∧
      ∀ name, name ∈ listed ↔ name ∈ names ∧ w.isDirectory (p.below [name]) = .ok true := by
  obtain ⟨names, -, hlist, -, -, -⟩ := exists_of_mem_subdirectories h hd
  have hasked : ∀ name ∈ names, ∃ holds, w.isDirectory (p.below [name]) = .ok holds := by
    intro name hname
    cases hdirectory : w.isDirectory (p.below [name]) with
    | ok holds => exact ⟨holds, rfl⟩
    | error fault =>
        rw [subdirectories_of_refused hlist hname hdirectory] at h
        cases h
        cases hd
  obtain ⟨listed, hlisted, hsorted, hperm⟩ := subdirectories_of_list hlist hasked
  rw [hlisted] at h
  cases h
  refine ⟨names, listed, hlist, rfl, hsorted, fun name => ?_⟩
  rw [hperm.mem_iff, List.mem_filter, decide_eq_true_eq]

/-- Two worlds that list a directory in different orders have the same subdirectories there. -/
theorem subdirectories_congr {w w' : World} {p : Path}
    (hlist : ∀ {names}, w.list p = .ok names →
      ∃ names', w'.list p = .ok names' ∧ names'.Perm names)
    (herror : ∀ {fault}, w.list p = .error fault → w'.list p = .error fault)
    (hdirectory : ∀ name, w'.isDirectory (p.below [name]) = w.isDirectory (p.below [name])) :
    subdirectories w' p = subdirectories w p := by
  cases hnames : w.list p with
  | error fault =>
      unfold subdirectories
      rw [hnames, herror hnames]
      simp only [bind, Except.bind]
  | ok names =>
      obtain ⟨names', hnames', hperm⟩ := hlist hnames
      by_cases hasked : ∀ name ∈ names, ∃ holds, w.isDirectory (p.below [name]) = .ok holds
      · have hasked' : ∀ name ∈ names', ∃ holds, w'.isDirectory (p.below [name]) = .ok holds := by
          intro name hname
          rw [hdirectory]
          exact hasked name (hperm.mem_iff.mp hname)
        obtain ⟨found, hfound, hsorted, hmembers⟩ := subdirectories_of_list hnames hasked
        obtain ⟨found', hfound', hsorted', hmembers'⟩ := subdirectories_of_list hnames' hasked'
        simp only [hdirectory] at hmembers'
        have hsame : found' = found :=
          List.Perm.eq_of_pairwise (fun a b _ _ => String.le_antisymm) hsorted' hsorted
            (hmembers'.trans ((hperm.filter _).trans hmembers.symm))
        rw [hfound, hfound', hsame]
      · push Not at hasked
        obtain ⟨name, hname, hrefused⟩ := hasked
        cases hfault : w.isDirectory (p.below [name]) with
        | ok holds => exact absurd hfault (hrefused holds)
        | error fault =>
            rw [subdirectories_of_refused hnames hname hfault,
              subdirectories_of_refused hnames' (hperm.mem_iff.mpr hname)
                ((hdirectory name).trans hfault)]

theorem exists_subdirectories (hp : p.IsEncodable) : ∃ found, subdirectories w p = .ok found := by
  refine exists_orOnRefusal (fun fault hfault => ?_) []
  rcases bind_eq_error.mp hfault with hlist | ⟨names, -, hfault⟩
  · obtain ⟨cause, rfl⟩ := FileTree.list_os_of_isEncodable hp hlist
    exact ⟨cause, _, rfl⟩
  · rcases bind_eq_error.mp hfault with hfilter | ⟨directories, -, hdone⟩
    · obtain ⟨name, -, hchild⟩ := exists_of_filterM_error hfilter
      obtain ⟨rfl, -⟩ := FileTree.isOverLong_of_isDirectory hchild
      exact ⟨_, _, rfl⟩
    · cases hdone

/-- What is listed as a subdirectory can be looked up. -/
theorem expressible_of_mem_subdirectories {found : List Path}
    (h : subdirectories w p = .ok found) {d : Path} (hd : d ∈ found) : d.Expressible := by
  obtain ⟨-, -, -, -, -, hdirectory⟩ := exists_of_mem_subdirectories h hd
  exact (FileTree.stat_ok_iff.mp (FileTree.isDirectory_iff.mp hdirectory)).1

/-! ## Files that are read -/

/-- A file that cannot be read is a file without text. -/
theorem exists_orOnRefusal_readText (hp : p.IsEncodable) (fallback : α) (g : String → α) :
    ∃ a, orOnRefusal fallback (do return g (← w.readText p)) = .ok a := by
  refine exists_orOnRefusal (fun fault hfault => ?_) fallback
  rcases bind_eq_error.mp hfault with hread | ⟨text, -, hdone⟩
  · rcases bind_eq_error.mp hread with hbytes | ⟨bytes, -, hdone⟩
    · obtain ⟨cause, rfl⟩ := FileTree.readBytes_os_of_isEncodable hp hbytes
      exact ⟨cause, _, rfl⟩
    · cases hdone
  · cases hdone

end AsmNavigator.Workspace
