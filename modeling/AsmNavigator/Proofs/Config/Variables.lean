import AsmNavigator.Proofs.Config.Sources
import AsmNavigator.Proofs.Data.Outcome
import AsmNavigator.Proofs.Source.Recognisers

/-! # What the variables of the environment say

If every variable of the family names one setting of one section, and none is there twice,
then a scalar setting is in what the variables say exactly if there is a variable of its
name, and its value is the text of that variable.
-/

namespace AsmNavigator.Config

namespace Variables

def variableName (sectionName name : String) : String :=
  family ++ sectionName ++ separator ++ name

/-- The variable with a name, in any case. -/
def named? (env : Environment) (name : String) : Option String :=
  OrderedMap.find? name (env.vars.entries.map fun entry => (Text.lowerCase entry.1, entry.2))

def IsOurs (name : String) : Prop := family.toList <+: (Text.lowerCase name).toList

/-- Every variable of the family names one setting, and none is there twice, in whatever case. -/
structure NamesSettings (env : Environment) : Prop where
  named : ∀ entry ∈ env.vars.entries, IsOurs entry.1 →
    ∃ sectionName ∈ Settings.sections, ∃ name ∈ settingsOf sectionName,
      Text.lowerCase entry.1 = variableName sectionName name
  once : ∀ entry ∈ env.vars.entries, ∀ other ∈ env.vars.entries, IsOurs entry.1 →
    Text.lowerCase entry.1 = Text.lowerCase other.1 → entry = other

/-! ## Names -/

theorem toList_variableName (sectionName name : String) :
    (variableName sectionName name).toList =
      (family ++ sectionName ++ separator).toList ++ name.toList := by
  simp [variableName]

theorem variableName_inj {sectionName name other : String}
    (h : variableName sectionName name = variableName sectionName other) : name = other := by
  have hlists := congrArg String.toList h
  rw [toList_variableName, toList_variableName] at hlists
  exact String.toList_inj.mp (List.append_cancel_left hlists)

/-- No section's name with what separates it from a setting begins another's. -/
theorem eq_of_beginning : ∀ sectionName ∈ Settings.sections, ∀ other ∈ Settings.sections,
    sectionName.toList ++ separator.toList <+: other.toList ++ separator.toList →
      sectionName = other := by
  decide

theorem split_settingsOf : ∀ sectionName ∈ Settings.sections,
    ∀ name ∈ settingsOf sectionName, Text.split separator name = [name] := by
  decide +kernel

theorem lowerCase_settingsOf : ∀ sectionName ∈ Settings.sections,
    ∀ name ∈ settingsOf sectionName, Text.lowerCase name = name := by
  decide +kernel

theorem not_beginning_section : ∀ sectionName ∈ Settings.sections, ∀ other ∈ Settings.sections,
    ¬ other.toList ++ separator.toList <+: sectionName.toList := by
  decide

/-- The variable of a setting is below no other section. -/
theorem eq_of_below {sectionName other name : String}
    (hsection : sectionName ∈ Settings.sections) (hother : other ∈ Settings.sections)
    (h : (family ++ sectionName ++ separator).toList <+: (variableName other name).toList) :
    sectionName = other := by
  rw [toList_variableName] at h
  have hprefixes := List.prefix_or_prefix_of_prefix h (List.prefix_append _ _)
  simp only [String.toList_append, List.append_assoc, List.prefix_append_right_inj] at hprefixes
  rcases hprefixes with hprefix | hprefix
  · exact eq_of_beginning sectionName hsection other hother hprefix
  · exact (eq_of_beginning other hother sectionName hsection hprefix).symm

/-! ## One section -/

/-- Variables by their lower-case names: none twice, and those of the family each for one
setting. -/
structure AreNamed (vars : List (String × String)) : Prop where
  nodup : (vars.map (·.1)).Nodup
  named : ∀ entry ∈ vars, family.toList <+: entry.1.toList →
    ∃ sectionName ∈ Settings.sections, ∃ name ∈ settingsOf sectionName,
      entry.1 = variableName sectionName name

theorem NamesSettings.areNamed {env : Environment} (h : NamesSettings env) :
    AreNamed (lowered env) := by
  refine ⟨OrderedMap.nodup_keys_ofList _, fun entry hentry hours => ?_⟩
  obtain ⟨written, hwritten, rfl⟩ := List.mem_map.mp (OrderedMap.mem_of_mem_ofList hentry)
  exact h.named written hwritten hours

/-- The entries that a section's variables have given so far. -/
structure AreEntriesOf (sectionName : String) (entries : List (Scalar × Value)) : Prop where
  nodup : (Scalar.identities entries).Nodup
  named : ∀ entry ∈ entries, ∃ name ∈ settingsOf sectionName, entry.1 = .text name

def addVariable (depth : Nat) (sectionName : String) (entries : List (Scalar × Value))
    (entry : String × String) : Except Json.Fault (List (Scalar × Value)) :=
  match Text.dropPrefix? (family ++ sectionName ++ separator).toList entry.1.toList with
  | none => .ok entries
  | some rest => do
      let keys := Text.split separator (String.ofList rest)
      return setAt (← valueAt depth sectionName keys entry.2) keys entries

theorem below_eq (depth : Nat) (sectionName : String) (vars : List (String × String)) :
    below depth sectionName vars = vars.foldlM (addVariable depth sectionName) [] := rfl

def IsNamed (varName : String) : Prop :=
  family.toList <+: varName.toList → ∃ sectionName ∈ Settings.sections,
    ∃ name ∈ settingsOf sectionName, varName = variableName sectionName name

theorem AreNamed.of_cons {entry : String × String} {rest : List (String × String)}
    (h : AreNamed (entry :: rest)) :
    IsNamed entry.1 ∧ (∀ other ∈ rest, other.1 ≠ entry.1) ∧ AreNamed rest := by
  obtain ⟨hfresh, hnodup⟩ := List.nodup_cons.mp h.nodup
  refine ⟨h.named entry (by simp), fun other hother heq => ?_, hnodup, fun other hother => ?_⟩
  · exact hfresh (List.mem_map.mpr ⟨other, hother, heq⟩)
  · exact h.named other (List.mem_cons_of_mem _ hother)

section OneSection

variable {depth : Nat} {sectionName : String} (hsection : sectionName ∈ Settings.sections)
include hsection

theorem addVariable_of_name {name : String} (hname : name ∈ settingsOf sectionName)
    (entries : List (Scalar × Value)) (s : String) :
    addVariable depth sectionName entries (variableName sectionName name, s) = (do
      return OrderedMap.put (.text name) (← valueAt depth sectionName [name] s) entries) := by
  unfold addVariable
  rw [toList_variableName, Text.dropPrefix?_append]
  simp only [String.ofList_toList, split_settingsOf sectionName hsection name hname, setAt]

theorem addVariable_of_other {entry : String × String} (hnamed : IsNamed entry.1)
    (hother : ∀ name ∈ settingsOf sectionName, entry.1 ≠ variableName sectionName name)
    (entries : List (Scalar × Value)) :
    addVariable depth sectionName entries entry = .ok entries := by
  unfold addVariable
  cases hdrop : Text.dropPrefix? (family ++ sectionName ++ separator).toList
      entry.1.toList with
  | none => rfl
  | some rest =>
      have hprefix : (family ++ sectionName ++ separator).toList <+: entry.1.toList :=
        ⟨rest, (Text.dropPrefix?_eq_some_iff.mp hdrop).symm⟩
      have hours : family.toList <+: entry.1.toList := by
        refine List.IsPrefix.trans ?_ hprefix
        simp [List.append_assoc]
      obtain ⟨other, hmem, name, hname, heq⟩ := hnamed hours
      rw [heq] at hprefix
      obtain rfl := eq_of_below hsection hmem hprefix
      exact absurd heq (hother name hname)

/-- One variable sets one setting, or is none of the section's. -/
theorem addVariable_cases {entry : String × String} (hnamed : IsNamed entry.1)
    {entries next : List (Scalar × Value)}
    (h : addVariable depth sectionName entries entry = .ok next) :
    (∃ name ∈ settingsOf sectionName, entry.1 = variableName sectionName name ∧
        ∃ value, valueAt depth sectionName [name] entry.2 = .ok value ∧
          next = OrderedMap.put (.text name) value entries) ∨
      ((∀ name ∈ settingsOf sectionName, entry.1 ≠ variableName sectionName name) ∧
        next = entries) := by
  by_cases hours : ∃ name ∈ settingsOf sectionName, entry.1 = variableName sectionName name
  · left
    obtain ⟨name, hname, heq⟩ := hours
    have hentry : entry = (variableName sectionName name, entry.2) := by rw [← heq]
    rw [hentry, addVariable_of_name hsection hname] at h
    obtain ⟨value, hvalue, h⟩ := bind_eq_ok.mp h
    cases h
    exact ⟨name, hname, heq, value, hvalue, rfl⟩
  · right
    have hother : ∀ name ∈ settingsOf sectionName, entry.1 ≠ variableName sectionName name :=
      fun name hname heq => hours ⟨name, hname, heq⟩
    rw [addVariable_of_other hsection hnamed hother] at h
    cases h
    exact ⟨hother, rfl⟩

omit hsection in
theorem AreEntriesOf.put {entries : List (Scalar × Value)} (h : AreEntriesOf sectionName entries)
    {name : String} (hname : name ∈ settingsOf sectionName) (value : Value) :
    AreEntriesOf sectionName (OrderedMap.put (.text name) value entries) := by
  refine ⟨?_, fun entry hentry => ?_⟩
  · rw [← Scalar.put_text]
    exact Scalar.nodup_put h.nodup _ _
  · rcases OrderedMap.mem_of_mem_put hentry with hold | rfl
    · exact h.named entry hold
    · exact ⟨name, hname, rfl⟩

theorem areEntriesOf_of_addVariable {entry : String × String} (hnamed : IsNamed entry.1)
    {entries next : List (Scalar × Value)} (hentries : AreEntriesOf sectionName entries)
    (h : addVariable depth sectionName entries entry = .ok next) :
    AreEntriesOf sectionName next := by
  rcases addVariable_cases hsection hnamed h with ⟨set, hset, -, value, -, rfl⟩ | ⟨-, rfl⟩
  · exact hentries.put hset value
  · exact hentries

omit hsection in
/-- A setting that is neither a list nor a mapping is the text of its variable. -/
theorem valueAt_of_plain {name : String} (hplain : name ∉ structured sectionName) (s : String) :
    valueAt depth sectionName [name] s = .ok (.text s) := by
  unfold valueAt
  simp [hplain]

/-- One variable decides about the setting that it names, and about no other. -/
theorem find?_of_addVariable {entry : String × String} (hnamed : IsNamed entry.1)
    {entries next : List (Scalar × Value)}
    (h : addVariable depth sectionName entries entry = .ok next) {name : String}
    (hname : name ∈ settingsOf sectionName) (hplain : name ∉ structured sectionName) :
    OrderedMap.find? (.text name) next =
      if entry.1 = variableName sectionName name then some (.text entry.2)
      else OrderedMap.find? (.text name) entries := by
  rcases addVariable_cases hsection hnamed h with
    ⟨set, hset, heq, value, hvalue, rfl⟩ | ⟨hother, rfl⟩
  · rw [OrderedMap.find?_put, heq]
    by_cases hsame : set = name
    · subst hsame
      rw [valueAt_of_plain hplain] at hvalue
      cases hvalue
      rw [if_pos rfl, if_pos rfl]
    · have hne : ¬ variableName sectionName set = variableName sectionName name :=
        fun h => hsame (variableName_inj h)
      rw [if_neg hne, if_neg (by simpa using hsame)]
  · rw [if_neg (hother name hname)]

/-- No variable is there twice, so that the one of a setting decides, wherever it stands. -/
theorem find?_of_foldlM {vars : List (String × String)} (hvars : AreNamed vars)
    {entries result : List (Scalar × Value)}
    (h : vars.foldlM (addVariable depth sectionName) entries = .ok result) {name : String}
    (hname : name ∈ settingsOf sectionName) (hplain : name ∉ structured sectionName) :
    OrderedMap.find? (.text name) result =
      ((OrderedMap.find? (variableName sectionName name) vars).map Value.text).or
        (OrderedMap.find? (.text name) entries) := by
  induction vars generalizing entries with
  | nil =>
      cases h
      rfl
  | cons entry rest ih =>
      obtain ⟨hnamed, hfresh, hrest⟩ := hvars.of_cons
      rw [List.foldlM_cons] at h
      obtain ⟨next, hnext, h⟩ := bind_eq_ok.mp h
      rw [ih hrest h, find?_of_addVariable hsection hnamed hnext hname hplain, OrderedMap.find?]
      split
      · next heq =>
          have habsent : OrderedMap.find? (variableName sectionName name) rest = none :=
            OrderedMap.find?_eq_none_iff.mpr fun other hother => heq ▸ hfresh other hother
          rw [habsent]
          rfl
      · rfl

/-- The settings of a section are written as their names are. -/
theorem canonical_eq {entries : List (Scalar × Value)} (h : AreEntriesOf sectionName entries) :
    canonical sectionName entries = entries := by
  have hkeys : (entries.map (·.1)).Nodup := by
    have hnodup := h.nodup
    rw [Scalar.identities_eq] at hnodup
    exact hnodup.of_map _
  have hfold : canonical sectionName entries =
      entries.foldl (fun done entry => OrderedMap.put entry.1 entry.2 done) [] := by
    refine List.foldl_ext _ _ [] fun done entry hentry => ?_
    obtain ⟨key, value⟩ := entry
    obtain ⟨name, hname, rfl⟩ := h.named _ hentry
    simp only [lowerCase_settingsOf sectionName hsection name hname]
    rw [if_pos (by simpa using hname)]
  rw [hfold, OrderedMap.foldl_put_of_nodup (by simpa using hkeys), List.nil_append]

theorem lookup_section {vars : List (String × String)} (hvars : AreNamed vars) :
    vars.lookup (family ++ sectionName) = none := by
  rw [List.lookup_eq_none_iff]
  intro entry hentry
  rw [bne_iff_ne]
  intro heq
  have hours : family.toList <+: entry.1.toList := by
    rw [← heq]
    simp
  obtain ⟨other, hother, name, -, hnamed⟩ := hvars.named entry hentry hours
  have hprefix : (family ++ other ++ separator).toList <+: (family ++ sectionName).toList := by
    rw [heq, hnamed, toList_variableName]
    exact List.prefix_append _ _
  simp only [String.toList_append, List.append_assoc, List.prefix_append_right_inj] at hprefix
  exact not_beginning_section sectionName hsection other hother hprefix

/-- What the variables say about a section: the settings that they name, if any. -/
theorem sectionValue_cases {vars : List (String × String)} (hvars : AreNamed vars)
    {value? : Option Value} (h : sectionValue depth sectionName vars = .ok value?) :
    ∃ entries, AreEntriesOf sectionName entries ∧
      value? = (if entries.isEmpty then none else some (.map entries)) ∧
      ∀ name ∈ settingsOf sectionName, name ∉ structured sectionName →
        OrderedMap.find? (.text name) entries =
          (OrderedMap.find? (variableName sectionName name) vars).map Value.text := by
  unfold sectionValue at h
  rw [lookup_section hsection hvars, below_eq] at h
  obtain ⟨entries, hbelow, h⟩ := bind_eq_ok.mp h
  have hempty : AreEntriesOf sectionName [] := ⟨by simp [Scalar.identities], by simp⟩
  have hentries : AreEntriesOf sectionName entries :=
    foldlM_keeps (fun entry hentry _ _ hacc hnext =>
      areEntriesOf_of_addVariable hsection (hvars.named entry hentry) hacc hnext) hempty hbelow
  refine ⟨entries, hentries, ?_, fun name hname hplain => ?_⟩
  · cases h
    rw [canonical_eq hsection hentries]
  · rw [find?_of_foldlM hsection hvars hbelow hname hplain]
    simp [OrderedMap.find?]

end OneSection

/-! ## All sections -/

def addSection (depth : Nat) (vars : List (String × String)) (found : List (Scalar × Value))
    (name : String) : Except Unreadable (List (Scalar × Value)) :=
  match sectionValue depth name vars with
  | .error fault => .error ⟨name, fault⟩
  | .ok none => .ok found
  | .ok (some value) => .ok (OrderedMap.put (.text name) value found)

theorem entries_eq (env : Environment) :
    entries env = Settings.sections.foldlM (addSection env.nesting (lowered env)) [] := rfl

theorem find?_of_addSection {depth : Nat} {vars : List (String × String)}
    {found next : List (Scalar × Value)} {name : String}
    (h : addSection depth vars found name = .ok next) :
    ∃ value?, sectionValue depth name vars = .ok value? ∧ ∀ other,
      OrderedMap.find? (.text other) next =
        if other = name then value?.or (OrderedMap.find? (.text other) found)
        else OrderedMap.find? (.text other) found := by
  unfold addSection at h
  rcases hvalue : sectionValue depth name vars with fault | _ | value
  · rw [hvalue] at h
    cases h
  · rw [hvalue] at h
    cases h
    exact ⟨none, rfl, fun other => by simp⟩
  · rw [hvalue] at h
    cases h
    refine ⟨some value, rfl, fun other => ?_⟩
    rw [OrderedMap.find?_put]
    by_cases heq : other = name
    · simp [heq]
    · simp [heq, Ne.symm heq]

theorem nodup_of_addSection {depth : Nat} {vars : List (String × String)}
    {found next : List (Scalar × Value)} {name : String}
    (hfound : (Scalar.identities found).Nodup)
    (h : addSection depth vars found name = .ok next) : (Scalar.identities next).Nodup := by
  unfold addSection at h
  split at h
  · cases h
  · cases h
    exact hfound
  · cases h
    rw [← Scalar.put_text]
    exact Scalar.nodup_put hfound _ _

theorem nodup_of_entries {env : Environment} {found : List (Scalar × Value)}
    (h : entries env = .ok found) : (Scalar.identities found).Nodup := by
  rw [entries_eq] at h
  exact foldlM_keeps (fun _ _ _ _ hacc hnext => nodup_of_addSection hacc hnext)
    (by simp [Scalar.identities]) h

/-- No section is taken twice, so that what is said about each stays. -/
theorem find?_of_foldlM_addSection {depth : Nat} {vars : List (String × String)}
    {names : List String} (hnames : names.Nodup) {found result : List (Scalar × Value)}
    (h : names.foldlM (addSection depth vars) found = .ok result) (other : String) :
    (other ∈ names → ∃ value?, sectionValue depth other vars = .ok value? ∧
        OrderedMap.find? (.text other) result =
          value?.or (OrderedMap.find? (.text other) found)) ∧
      (other ∉ names → OrderedMap.find? (.text other) result =
        OrderedMap.find? (.text other) found) := by
  induction names generalizing found with
  | nil =>
      cases h
      exact ⟨fun hmem => absurd hmem (by simp), fun _ => rfl⟩
  | cons name rest ih =>
      obtain ⟨hfresh, hrest⟩ := List.nodup_cons.mp hnames
      rw [List.foldlM_cons] at h
      obtain ⟨next, hnext, h⟩ := bind_eq_ok.mp h
      obtain ⟨value?, hvalue, hfind⟩ := find?_of_addSection hnext
      obtain ⟨hin, hout⟩ := ih hrest h
      refine ⟨fun hmem => ?_, fun hmem => ?_⟩
      · by_cases heq : other = name
        · subst heq
          exact ⟨value?, hvalue, by rw [hout hfresh, hfind, if_pos rfl]⟩
        · obtain ⟨other?, hother, hresolved⟩ := hin ((List.mem_cons.mp hmem).resolve_left heq)
          exact ⟨other?, hother, by rw [hresolved, hfind, if_neg heq]⟩
      · rw [List.mem_cons, not_or] at hmem
        rw [hout hmem.2, hfind, if_neg hmem.1]

end Variables

namespace Setting

open Variables

/-- The text of the variable for a setting, whatever the case of its name. -/
def ofVariable? (env : Environment) (σ : Setting) : Option String :=
  named? env (variableName σ.sectionName σ.name)

theorem name_mem (σ : Setting) : σ.name ∈ settingsOf σ.sectionName := by
  cases σ <;> decide

theorem name_not_mem_structured (σ : Setting) : σ.name ∉ structured σ.sectionName := by
  cases σ <;> decide

theorem find?_lowered {env : Environment} (h : NamesSettings env) (σ : Setting) :
    OrderedMap.find? (variableName σ.sectionName σ.name) (lowered env) = σ.ofVariable? env := by
  apply OrderedMap.get?_ofList_of_unique
  intro value value' hvalue hvalue'
  obtain ⟨written, hwritten, heq⟩ := List.mem_map.mp hvalue
  obtain ⟨other, hother, heq'⟩ := List.mem_map.mp hvalue'
  obtain ⟨hname, rfl⟩ := Prod.mk.inj heq
  obtain ⟨hname', rfl⟩ := Prod.mk.inj heq'
  have hours : IsOurs written.1 := by
    unfold IsOurs
    rw [hname]
    simp [variableName]
  rw [h.once written hwritten other hother hours (hname.trans hname'.symm)]

/-- What the variables say is a source, and it gives a scalar setting the text of its variable. -/
theorem in?_entries {env : Environment} (henv : NamesSettings env)
    {found : List (Scalar × Value)} (h : Variables.entries env = .ok found) (σ : Setting) :
    σ.IsSourced found ∧ σ.in? found = (σ.ofVariable? env).map Value.text := by
  have hkeys := nodup_of_entries h
  rw [entries_eq] at h
  have hnodup : Settings.sections.Nodup := by decide
  obtain ⟨value?, hvalue, hfind⟩ :=
    (find?_of_foldlM_addSection hnodup h σ.sectionName).1 σ.sectionName_mem
  obtain ⟨entries, hentries, rfl, hsettings⟩ :=
    sectionValue_cases σ.sectionName_mem henv.areNamed hvalue
  have hsetting := hsettings σ.name σ.name_mem σ.name_not_mem_structured
  rw [find?_lowered henv σ] at hsetting
  rw [OrderedMap.find?, Option.or_none] at hfind
  refine ⟨⟨hkeys, fun value hmem => ?_⟩, ?_⟩
  · rw [hfind] at hmem
    split at hmem
    · cases hmem
    · cases hmem
      exact ⟨entries, .inl rfl, hentries.nodup⟩
  · unfold in?
    rw [hfind, ← hsetting]
    cases entries with
    | nil => rfl
    | cons entry rest => rfl

end Setting

end AsmNavigator.Config
