import AsmNavigator.Proofs.Source.ReexportCount
import AsmNavigator.Proofs.Workspace.Listing
import AsmNavigator.Registry.Locate

/-! # The versions of a package

The versions that are searched are the entries of an index directory with the name of the
package before a dash. They are refused as a whole if one of them has a piece that looks
like a number and is none, or a number that is too long.
-/

namespace AsmNavigator

namespace VersionKey

/-! ## Keys -/

theorem flatten_runs (p : Char → Bool) (cs : List Char) : (runs p cs).flatten = cs := by
  fun_induction runs p cs with
  | case1 => rfl
  | case2 c rest d run more hrest hsame ih =>
      rw [hrest] at ih
      simpa using ih
  | case3 c rest d run more hrest hother ih =>
      rw [hrest] at ih
      simpa using ih
  | case4 c rest hrest ih => simpa using ih

theorem nameBytes_pos_of_isDecimalDigit {c : Char} (h : Text.isDecimalDigit c = true) :
    1 ≤ Text.nameBytes c := by
  have hmark : Text.isDecimalDigit Text.mark = false := by decide +kernel
  unfold Text.nameBytes
  split
  · next heq => simp [heq, hmark] at h
  · split
    · exact Nat.le_refl 1
    · exact c.utf8Size_pos

/-- A name has at least as many bytes as digits. -/
theorem length_le_charsSize {run cs : List Char} (h : run.Sublist cs)
    (hdigits : ∀ c ∈ run, Text.isDecimalDigit c = true) : run.length ≤ Text.charsSize cs := by
  induction h with
  | slnil => exact Nat.zero_le _
  | cons c _ ih => exact Nat.le_add_left_of_le (ih hdigits)
  | cons_cons c _ ih =>
      have hfirst := nameBytes_pos_of_isDecimalDigit (hdigits c (by simp))
      have hrest := ih fun d hd => hdigits d (List.mem_cons_of_mem _ hd)
      simp only [Text.charsSize, List.length_cons]
      omega

theorem partOfRun_error {run : List Char} {fault : Fault} (h : partOfRun run = .error fault) :
    (fault = .notANumber (String.ofList run) ∧ run.all Text.isDigitLike = true ∧
        run.all Text.isDecimalDigit = false) ∨
      (run.all Text.isDecimalDigit = true ∧ Numeral.digitLimit < run.length) := by
  unfold partOfRun at h
  split at h
  · next hdecimal =>
      split at h
      · next hlong => exact .inr ⟨hdecimal, hlong⟩
      · cases h
  · next hdecimal =>
      split at h
      · next hlike =>
          cases h
          exact .inl ⟨rfl, hlike, by simpa using hdecimal⟩
      · cases h

theorem exists_of_ofName_error {name : String} {fault : Fault} (h : ofName name = .error fault) :
    ∃ run ∈ runs Text.isDecimalDigit name.toList, partOfRun run = .error fault :=
  exists_of_mapM_error h

/-- A piece of a name that looks like a number and is none. -/
def HasOddPiece (name piece : String) : Prop :=
  ∃ run ∈ runs Text.isDecimalDigit name.toList, piece = String.ofList run ∧
    run.all Text.isDigitLike = true ∧ run.all Text.isDecimalDigit = false

/-- The numbers in a short name are short. -/
theorem hasOddPiece_of_ofName_error {name : String}
    (hname : Text.nameSize name ≤ Numeral.digitLimit) {fault : Fault}
    (h : ofName name = .error fault) :
    ∃ piece, fault = .notANumber piece ∧ HasOddPiece name piece := by
  obtain ⟨run, hrun, hfault⟩ := exists_of_ofName_error h
  rcases partOfRun_error hfault with ⟨rfl, hlike, hdecimal⟩ | ⟨hdecimal, hlong⟩
  · exact ⟨_, rfl, run, hrun, rfl, hlike, hdecimal⟩
  · have hsublist : run.Sublist (runs Text.isDecimalDigit name.toList).flatten :=
      List.sublist_flatten_of_mem hrun
    rw [flatten_runs] at hsublist
    have hlength := length_le_charsSize hsublist (List.all_eq_true.mp hdecimal)
    exact absurd (Nat.lt_of_lt_of_le hlong hlength) (Nat.not_lt.mpr hname)

/-! ## Order -/

theorem map_snd_keyed {names : List String} {items : List (VersionKey × String)}
    (h : keyed names = .ok items) : items.map (·.2) = names := by
  refine map_eq_of_mapM (fun name item hitem => ?_) h
  cases hkey : ofName name with
  | error fault =>
      rw [hkey] at hitem
      cases hitem
  | ok key =>
      rw [hkey] at hitem
      cases hitem
      rfl

theorem mem_of_mem_descending {names sorted : List String} (h : descending names = .ok sorted)
    {name : String} (hname : name ∈ sorted) : name ∈ names := by
  obtain ⟨items, hkeyed, h⟩ := bind_eq_ok.mp h
  cases h
  obtain ⟨item, hitem, rfl⟩ := List.mem_map.mp hname
  rw [← map_snd_keyed hkeyed]
  exact List.mem_map_of_mem (List.mem_mergeSort.mp hitem)

theorem exists_of_descending_error {names : List String} {fault : Fault}
    (h : descending names = .error fault) : ∃ name ∈ names, ofName name = .error fault := by
  rcases bind_eq_error.mp h with hkeyed | ⟨items, -, h⟩
  · obtain ⟨name, hname, hfault⟩ := exists_of_mapM_error hkeyed
    refine ⟨name, hname, ?_⟩
    cases hkey : ofName name with
    | error refusal =>
        rw [hkey] at hfault
        cases hfault
        rfl
    | ok key =>
        rw [hkey] at hfault
        cases hfault
  · cases h

end VersionKey

namespace Registry

open Workspace

variable {w : World} {package : String} {indexDir : Path}

def HoldsVersion (w : World) (package : String) (indexDir : Path) (name : String) : Prop :=
  ∃ names, w.list indexDir = .ok names ∧ name ∈ names ∧
    (package ++ "-").toList.isPrefixOf name.toList = true

theorem HoldsVersion.size_le {name : String} (h : HoldsVersion w package indexDir name)
    (hsound : w.tree.Sound) : Text.nameSize name ≤ FileTree.nameLimit := by
  obtain ⟨names, hlist, hname, -⟩ := h
  obtain ⟨-, place, -, -, rfl⟩ := FileTree.list_ok_iff.mp hlist
  exact (hsound.names (FileTree.mem_namesIn.mp hname) name (by simp)).2

theorem holdsVersion_of_mem {found : List String}
    (h : versions w package indexDir = .ok found) {name : String} (hname : name ∈ found) :
    HoldsVersion w package indexDir name := by
  obtain ⟨names, hnames, h⟩ := bind_eq_ok.mp h
  obtain ⟨hlisted, hprefix⟩ := List.mem_filter.mp (VersionKey.mem_of_mem_descending h hname)
  rcases of_orOnRefusal_ok hnames with hlist | rfl
  · exact ⟨names, hlist, hlisted, hprefix⟩
  · cases hlisted

theorem exists_of_versions_error (hdir : indexDir.IsEncodable) {fault : Fault}
    (h : versions w package indexDir = .error fault) :
    ∃ name, HoldsVersion w package indexDir name ∧ VersionKey.ofName name = .error fault := by
  rcases bind_eq_error.mp h with hnames | ⟨names, hnames, h⟩
  · obtain ⟨hlist, hother⟩ := of_orOnRefusal_error hnames
    obtain ⟨cause, rfl⟩ := FileTree.list_os_of_isEncodable hdir hlist
    exact absurd rfl (hother cause _)
  · obtain ⟨name, hname, hfault⟩ := VersionKey.exists_of_descending_error h
    obtain ⟨hlisted, hprefix⟩ := List.mem_filter.mp hname
    rcases of_orOnRefusal_ok hnames with hlist | rfl
    · exact ⟨name, ⟨names, hlist, hlisted, hprefix⟩, hfault⟩
    · cases hlisted

/-- The one reason for which the versions of a package are refused. -/
theorem hasOddPiece_of_versions_error (hsound : w.tree.Sound) (hdir : indexDir.IsEncodable)
    {fault : Fault} (h : versions w package indexDir = .error fault) :
    ∃ name piece, HoldsVersion w package indexDir name ∧ VersionKey.HasOddPiece name piece ∧
      fault = .notANumber piece := by
  obtain ⟨name, hholds, hname⟩ := exists_of_versions_error hdir h
  have hshort : Text.nameSize name ≤ Numeral.digitLimit :=
    Nat.le_trans (hholds.size_le hsound) (by decide)
  obtain ⟨piece, rfl, hpiece⟩ := VersionKey.hasOddPiece_of_ofName_error hshort hname
  exact ⟨name, piece, hholds, hpiece, rfl⟩

end Registry

end AsmNavigator
