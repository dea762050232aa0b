import AsmNavigator.Proofs.Data.OrderedMap
import AsmNavigator.Workspace.BuildScript

/-! # What a build script binds

A script declares a namespace by a pair of constants with a common key, and guesses it if a
call names it and no pair does. Of several pairs for one namespace the last key decides, by
the places where keys appear first; of several constants with one name the last one counts.
-/

namespace AsmNavigator.BuildScript

open Text OrderedMap

variable {excluded : List String} {text : String} {namespaceName : String}

/-! ## Declared and guessed directories -/

def namespaceConstants (text : String) : List (String × String) :=
  constants "" "_LIB_NAMESPACE" text.toList

def dirConstants (text : String) : List (String × String) :=
  constants "ASM_" "_DIR" text.toList

/-- The directory that a script declares for a namespace: that of the last key with this
namespace and a directory. -/
def declaredSubdir? (text namespaceName : String) : Option String :=
  (firstKeys (namespaceConstants text)).reverse.findSome? fun key =>
    if lastValue? key (namespaceConstants text) = some namespaceName then
      lastValue? key (dirConstants text)
    else none

/-- The directory of the first key that can name a library, or the last segment of the
namespace. -/
def usualSubdir (excluded : List String) (text namespaceName : String) : String :=
  (((firstKeys (dirConstants text)).find? fun key => !isExcludedKey excluded key).bind
    fun key => lastValue? key (dirConstants text)).getD
      ((split "::" namespaceName).getLast?.getD "")

/-- The directory that a script guesses for a namespace: one that it does not declare and
that a call names. -/
def guessedSubdir? (excluded : List String) (text namespaceName : String) : Option String :=
  if (declaredSubdir? text namespaceName).isNone ∧ namespaceName ∈ assembleCalls text.toList then
    some (usualSubdir excluded text namespaceName)
  else none

def binding? (excluded : List String) (text namespaceName : String) : Option Binding :=
  ((declaredSubdir? text namespaceName).map (⟨namespaceName, ·, true⟩)).or
    ((guessedSubdir? excluded text namespaceName).map (⟨namespaceName, ·, false⟩))

/-! ## The maps of a script -/

theorem get?_addDeclared (dirs : OrderedMap String String) (bindings : OrderedMap String Binding)
    (constant : String × String) (namespaceName : String) :
    (addDeclared dirs bindings constant).get? namespaceName =
      ((if constant.2 = namespaceName then dirs.get? constant.1 else none).map
        (⟨namespaceName, ·, true⟩)).or (bindings.get? namespaceName) := by
  unfold addDeclared
  split
  · next subdir hget =>
      rw [get?_insert]
      by_cases hname : constant.2 = namespaceName
      · subst hname
        simp [hget]
      · simp [hname]
  · next hget =>
      by_cases hname : constant.2 = namespaceName <;> simp [hname, hget]

/-- The last pair of constants for a namespace counts. -/
theorem get?_foldl_addDeclared (dirs : OrderedMap String String)
    (constants : List (String × String)) (namespaceName : String) :
    (constants.foldl (addDeclared dirs) .empty).get? namespaceName =
      (constants.reverse.findSome? fun constant =>
        if constant.2 = namespaceName then dirs.get? constant.1 else none).map
          (⟨namespaceName, ·, true⟩) := by
  induction constants using List.reverseRecOn with
  | nil => rfl
  | append_singleton constants constant ih =>
      rw [List.foldl_append, List.foldl_cons, List.foldl_nil, get?_addDeclared, ih,
        List.reverse_append, List.reverse_singleton, List.singleton_append, List.findSome?_cons]
      cases (if constant.2 = namespaceName then dirs.get? constant.1 else none) <;> rfl

/-- Calls bind what is not bound yet. -/
theorem get?_foldl_addGuessed (dirs : OrderedMap String String)
    (bindings : OrderedMap String Binding) (calls : List String) (namespaceName : String) :
    (calls.foldl (addGuessed excluded dirs) bindings).get? namespaceName =
      (bindings.get? namespaceName).or
        (if namespaceName ∈ calls then
          some ⟨namespaceName, guessedSubdir excluded dirs namespaceName, false⟩
        else none) := by
  induction calls generalizing bindings with
  | nil => simp
  | cons call rest ih =>
      rw [List.foldl_cons, ih, addGuessed, get?_insertIfNew]
      by_cases hcall : call = namespaceName
      · subst hcall
        simp
      · simp [hcall, Ne.symm hcall]

theorem guessedSubdir_ofList (namespaceName : String) :
    guessedSubdir excluded (ofList (dirConstants text)) namespaceName =
      usualSubdir excluded text namespaceName := by
  have hfirst := map_find?_entries (nodup_keys_ofList (dirConstants text))
    fun key => !isExcludedKey excluded key
  have hlast : (ofList (dirConstants text)).get? = fun key => lastValue? key (dirConstants text) :=
    funext fun key => get?_ofList key _
  rw [keys_ofList, hlast] at hfirst
  unfold guessedSubdir usualSubdir
  rw [← hfirst]
  split
  · next entry hentry => rw [hentry]; rfl
  · next hnone => rw [hnone]; rfl

/-! ## The bindings of a script -/

/-- Every namespace has one binding at most, which stands under its name. -/
structure IsNamed (m : OrderedMap String Binding) : Prop where
  names : ∀ entry ∈ m.entries, entry.2.namespaceName = entry.1
  nodup : m.keys.Nodup

theorem IsNamed.insert {m : OrderedMap String Binding} (h : IsNamed m) (binding : Binding) :
    IsNamed (m.insert binding.namespaceName binding) := by
  refine ⟨fun entry hentry => ?_, nodup_keys_insert h.nodup _ _⟩
  rcases mem_entries_insert hentry with hold | rfl
  · exact h.names entry hold
  · rfl

theorem IsNamed.addDeclared {dirs : OrderedMap String String} {m : OrderedMap String Binding}
    (h : IsNamed m) (constant : String × String) : IsNamed (addDeclared dirs m constant) := by
  unfold BuildScript.addDeclared
  split
  · next subdir _ => exact h.insert ⟨constant.2, subdir, true⟩
  · exact h

theorem IsNamed.addGuessed {dirs : OrderedMap String String} {m : OrderedMap String Binding}
    (h : IsNamed m) (call : String) : IsNamed (addGuessed excluded dirs m call) := by
  unfold BuildScript.addGuessed insertIfNew
  split
  · exact h
  · exact h.insert ⟨call, guessedSubdir excluded dirs call, false⟩

theorem IsNamed.find?_values {m : OrderedMap String Binding} (h : IsNamed m)
    (namespaceName : String) :
    m.values.find? (fun binding => binding.namespaceName = namespaceName) =
      m.get? namespaceName := by
  obtain ⟨entries⟩ := m
  have hnames : ∀ entry ∈ entries, entry.2.namespaceName = entry.1 := h.names
  clear h
  induction entries with
  | nil => rfl
  | cons entry rest ih =>
      have hname := hnames entry (by simp)
      have hrest := ih fun e he => hnames e (List.mem_cons_of_mem _ he)
      by_cases hkey : entry.1 = namespaceName
      · simp [values, get?, find?, hname, hkey]
      · simpa [values, get?, find?, hname, hkey] using hrest

theorem IsNamed.nodup_names {m : OrderedMap String Binding} (h : IsNamed m) :
    (m.values.map (·.namespaceName)).Nodup := by
  have hkeys : m.values.map (·.namespaceName) = m.keys := by
    rw [values, keys, List.map_map]
    exact List.map_congr_left fun entry hentry => h.names entry hentry
  rw [hkeys]
  exact h.nodup

theorem declaredSubdir?_eq (text namespaceName : String) :
    ((ofList (namespaceConstants text)).entries.reverse.findSome? fun constant =>
      if constant.2 = namespaceName then (ofList (dirConstants text)).get? constant.1 else none) =
      declaredSubdir? text namespaceName := by
  have hsearch := findSome?_reverse_entries (nodup_keys_ofList (namespaceConstants text))
    fun key name => if name = namespaceName then (ofList (dirConstants text)).get? key else none
  rw [hsearch, keys_ofList]
  unfold declaredSubdir?
  congr 1
  funext key
  rw [get?_ofList, get?_ofList]
  cases lastValue? key (namespaceConstants text) <;> simp

/-- The bindings of a script are those of its declared and guessed namespaces. -/
theorem exists_map_of_bindings (excluded : List String) (text : String) :
    ∃ m, IsNamed m ∧ bindings excluded text = m.values ∧
      ∀ namespaceName, m.get? namespaceName = binding? excluded text namespaceName := by
  have hempty : IsNamed .empty := ⟨by simp [empty], List.nodup_nil⟩
  have hdeclared := List.foldlRecOn (ofList (namespaceConstants text)).entries
    (addDeclared (ofList (dirConstants text))) hempty fun m hm constant _ => hm.addDeclared constant
  have hguessed := List.foldlRecOn (assembleCalls text.toList)
    (addGuessed excluded (ofList (dirConstants text))) hdeclared fun m hm call _ =>
      hm.addGuessed call
  refine ⟨_, hguessed, rfl, fun namespaceName => ?_⟩
  rw [get?_foldl_addGuessed, get?_foldl_addDeclared, declaredSubdir?_eq, guessedSubdir_ofList]
  unfold binding? guessedSubdir?
  cases declaredSubdir? text namespaceName with
  | some subdir => simp
  | none => by_cases hcall : namespaceName ∈ assembleCalls text.toList <;> simp [hcall]

theorem find?_bindings (excluded : List String) (text namespaceName : String) :
    (bindings excluded text).find? (fun binding => binding.namespaceName = namespaceName) =
      binding? excluded text namespaceName := by
  obtain ⟨m, hm, hvalues, hget⟩ := exists_map_of_bindings excluded text
  rw [hvalues, hm.find?_values, hget]

theorem nodup_bindings (excluded : List String) (text : String) :
    ((bindings excluded text).map (·.namespaceName)).Nodup := by
  obtain ⟨m, hm, hvalues, -⟩ := exists_map_of_bindings excluded text
  rw [hvalues]
  exact hm.nodup_names

end AsmNavigator.BuildScript
