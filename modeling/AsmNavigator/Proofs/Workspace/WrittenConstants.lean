import AsmNavigator.Proofs.Source.DefinitionLine
import AsmNavigator.Proofs.Source.WrittenDeclarations
import AsmNavigator.Proofs.Workspace.ScriptBindings

/-! # Constants in any order

Pairs of constants as data, the lines in which they are written, and the way back: from the
lines of pairs with distinct keys, in whatever order, a build script binds every namespace to
the directory of the last key that names it. A key may hold the texts that stand around keys,
so it is settled what each of the two scans takes from a line, and that no constant begins
inside the line of another one.
-/

namespace AsmNavigator.BuildScript

open Text Source OrderedMap

/-! ## Pairs of constants -/

/-- ASCII letters, digits and underscores. -/
abbrev Key := { key : String // ∀ c ∈ key.toList, isIdentChar c = true }

def isNameChar (c : Char) : Bool := c.isAlphanum || c ∈ ['_', ':', '/', '.', '-']

abbrev Name := { name : String // name ≠ "" ∧ ∀ c ∈ name.toList, isNameChar c = true }

/-- A key with its namespace and its directory. -/
structure ConstantPair where
  key : Key
  namespaceName : Name
  subdir : Name
  deriving DecidableEq

/-- One of the two lines of a pair. -/
inductive ConstantLine where
  | namespaceOf (pair : ConstantPair)
  | subdirOf (pair : ConstantPair)
  deriving DecidableEq

def ConstantPair.lines (pair : ConstantPair) : List ConstantLine :=
  [.namespaceOf pair, .subdirOf pair]

def ConstantPair.entry (pair : ConstantPair) : String × String :=
  (pair.namespaceName.1, pair.subdir.1)

def constantText (name value : String) : String :=
  "const " ++ name ++ ": &str = \"" ++ value ++ "\""

namespace ConstantLine

def constantName : ConstantLine → String
  | .namespaceOf pair => pair.key.1 ++ "_LIB_NAMESPACE"
  | .subdirOf pair => "ASM_" ++ pair.key.1 ++ "_DIR"

def value : ConstantLine → Name
  | .namespaceOf pair => pair.namespaceName
  | .subdirOf pair => pair.subdir

def text (line : ConstantLine) : String := constantText line.constantName line.value.1 ++ ";"

/-- The pair of which a line gives the namespace. -/
def named? : ConstantLine → Option ConstantPair
  | .namespaceOf pair => some pair
  | .subdirOf _ => none

/-- The pair of which a line gives the directory. -/
def placed? : ConstantLine → Option ConstantPair
  | .namespaceOf _ => none
  | .subdirOf pair => some pair

end ConstantLine

def scriptOf (lines : List ConstantLine) : String :=
  String.intercalate "\n" (lines.map (·.text))

/-- The pairs of which the lines give the namespaces, in the order of these lines. -/
def namedPairs (lines : List ConstantLine) : List ConstantPair := lines.filterMap (·.named?)

/-- The pairs that have a key at all. -/
def withKey (pairs : List ConstantPair) : List ConstantPair := pairs.filter (·.key.1 ≠ "")

/-- Every namespace of some entries is bound once, where it appears first, and declared in
the directory of the last entry that names it. -/
structure BindsLast (bindings : List Binding) (entries : List (String × String)) : Prop where
  names : bindings.map (·.namespaceName) = firstKeys entries
  declared : ∀ binding ∈ bindings, binding.declared = true
  subdirs : ∀ binding ∈ bindings,
    lastValue? binding.namespaceName entries = some binding.subdir

/-! ## Characters of keys and names -/

theorem isNameChar_of_isIdentChar {c : Char} (h : isIdentChar c = true) :
    isNameChar c = true := by
  simp only [isIdentChar, Bool.or_eq_true, beq_iff_eq] at h
  rcases h with h | rfl
  · simp [isNameChar, h]
  · decide

theorem isIdentChar_or_of_isNameChar {c : Char} (h : isNameChar c = true) :
    isIdentChar c = true ∨ c ∈ [':', '/', '.', '-'] := by
  simp only [isNameChar, isIdentChar, Bool.or_eq_true, decide_eq_true_eq, beq_iff_eq,
    List.mem_cons] at h ⊢
  tauto

theorem isBlank_eq_false_of_isNameChar {c : Char} (h : isNameChar c = true) :
    isBlank c = false := by
  rcases isIdentChar_or_of_isNameChar h with hident | hmark
  · rw [Bool.eq_false_iff]
    intro hblank
    rw [isIdentChar_eq_false_of_isBlank hblank] at hident
    cases hident
  · simp only [List.mem_cons, List.not_mem_nil, or_false] at hmark
    rcases hmark with rfl | rfl | rfl | rfl <;> decide

theorem not_mem_of_isNameChar {cs : List Char} (h : ∀ c ∈ cs, isNameChar c = true) {c : Char}
    (hc : isNameChar c = false) : c ∉ cs := by
  intro hmem
  rw [h c hmem] at hc
  cases hc

theorem ConstantLine.isIdentChar_constantName (line : ConstantLine) :
    ∀ c ∈ line.constantName.toList, isIdentChar c = true := by
  have hnamespace : ∀ c ∈ "_LIB_NAMESPACE".toList, isIdentChar c = true := by simp [isIdentChar]
  have hasm : ∀ c ∈ "ASM_".toList, isIdentChar c = true := by simp [isIdentChar]
  have hdir : ∀ c ∈ "_DIR".toList, isIdentChar c = true := by simp [isIdentChar]
  intro c hc
  cases line with
  | namespaceOf pair =>
      rw [constantName, String.toList_append, List.mem_append] at hc
      exact hc.elim (pair.key.2 c) (hnamespace c)
  | subdirOf pair =>
      rw [constantName, String.toList_append, String.toList_append, List.mem_append,
        List.mem_append] at hc
      exact hc.elim (fun hc => hc.elim (hasm c) (pair.key.2 c)) (hdir c)

/-! ## The constant of a line -/

theorem takeLiteral?_quoted {value : List Char} (hne : value ≠ []) (hvalue : '"' ∉ value)
    (rest : List Char) : takeLiteral? ('"' :: (value ++ '"' :: rest)) = some (value, rest) := by
  have hinside : ∀ c ∈ value, (c != '"') = true := by
    intro c hc
    rw [bne_iff_ne]
    rintro rfl
    exact hvalue hc
  have hstop : ∀ c ∈ ('"' :: rest).head?, (c != '"') = false := by simp
  have htake := takeWhile_append_stop hinside hstop
  have hdrop := dropWhile_append_stop hinside hstop
  have hnonempty : value.isEmpty = false := by simpa using hne
  simp only [takeLiteral?, htake, hdrop, hnonempty]

theorem beginsWord_append {name rest : List Char} (hname : ∀ c ∈ name, isIdentChar c = true)
    (hrest : BeginsWord rest) : BeginsWord (name ++ rest) := by
  cases name with
  | nil => exact hrest
  | cons first name =>
      intro c hc
      cases hc
      exact isBlank_eq_false_of_isNameChar (isNameChar_of_isIdentChar (hname _ (by simp)))

theorem constantAt?_constantText {name value : String}
    (hname : ∀ c ∈ name.toList, isIdentChar c = true) (hne : value.toList ≠ [])
    (hvalue : '"' ∉ value.toList) (rest : List Char) :
    constantAt? ((constantText name value).toList ++ rest) =
      some (name.toList, value.toList, (constantText name value).toList.length) := by
  let quoted := '"' :: (value.toList ++ '"' :: rest)
  let tail := ": &str = ".toList ++ quoted
  have htext : (constantText name value).toList ++ rest =
      "const".toList ++ ' ' :: (name.toList ++ tail) := by
    simp [constantText, tail, quoted]
  have hword : BeginsWord tail := by
    intro c hc
    cases hc
    decide
  have hkeyword : afterKeyword? "const" ((constantText name value).toList ++ rest) =
      some (name.toList ++ tail) := by
    rw [htext, afterKeyword?, dropPrefix?_append, Option.bind_some,
      skipBlanks?_space (beginsWord_append hname hword)]
  have hrun : ∀ c ∈ name.toList, isWordChar c = true := fun c hc =>
    isWordChar_of_isIdentChar (hname c hc)
  have hstop : ∀ c ∈ tail.head?, isWordChar c = false := by
    intro c hc
    cases hc
    decide
  have htake := takeWhile_append_stop hrun hstop
  have hdrop := dropWhile_append_stop hrun hstop
  have hcolon : dropPrefix? [':'] tail = some (" &str = ".toList ++ quoted) := rfl
  have htype : dropPrefix? "&str".toList (skipOptionalBlanks (" &str = ".toList ++ quoted)) =
      some (" = ".toList ++ quoted) := rfl
  have hequals : dropPrefix? ['='] (skipOptionalBlanks (" = ".toList ++ quoted)) =
      some (" ".toList ++ quoted) := rfl
  have hblank : skipOptionalBlanks (" ".toList ++ quoted) = quoted := rfl
  have hliteral : takeLiteral? quoted = some (value.toList, rest) :=
    takeLiteral?_quoted hne hvalue rest
  have hlength : ((constantText name value).toList ++ rest).length - rest.length =
      (constantText name value).toList.length := by
    rw [List.length_append, Nat.add_sub_cancel]
  simp only [constantAt?, hkeyword, htake, hdrop, hcolon, htype, hequals, hblank, hliteral,
    hlength, Option.bind_eq_bind, Option.bind_some]

def keyedConstantAt? (before after : String) (cs : List Char) :
    Option ((String × String) × Nat) := do
  let (name, value, length) ← constantAt? cs
  let key ← keyBetween? before.toList after.toList name
  some ((String.ofList key, String.ofList value), length)

theorem constants_eq (before after : String) (cs : List Char) :
    constants before after cs = findAll (fun _ => keyedConstantAt? before after) cs := rfl

theorem keyedConstantAt?_eq_none {before after : String} {cs : List Char}
    (h : afterKeyword? "const" cs = none) : keyedConstantAt? before after cs = none := by
  simp only [keyedConstantAt?, constantAt?, h, Option.bind_eq_bind, Option.bind_none]

/-- No constant begins in a text without the first letter of the keyword. -/
theorem yields_of_not_mem (before after : String) {cs : List Char} (h : 'c' ∉ cs) :
    Yields (keyedConstantAt? before after) cs [] := by
  induction cs with
  | nil => exact .nil
  | cons c cs ih =>
      obtain ⟨hc, hcs⟩ := not_or.mp (mt List.mem_cons.mpr h)
      refine .cons (fun rest => keyedConstantAt?_eq_none ?_) (ih hcs)
      have hnone : dropPrefix? "const".toList (c :: cs ++ rest) = none := if_neg hc
      rw [afterKeyword?, hnone, Option.bind_none]

/-- No constant begins in a word that ends with a character of another kind. -/
theorem yields_word (before after : String) {run : List Char} {stop : Char}
    (hrun : ∀ c ∈ run, isBlank c = false) (hstop : stop ∉ "const".toList)
    (hblank : isBlank stop = false) :
    Yields (keyedConstantAt? before after) (run ++ [stop]) [] := by
  have hmiss : ∀ run : List Char, (∀ c ∈ run, isBlank c = false) →
      ∀ rest, keyedConstantAt? before after (run ++ [stop] ++ rest) = none := by
    intro run hrun rest
    rw [List.append_assoc]
    exact keyedConstantAt?_eq_none (afterKeyword?_eq_none hrun hstop hblank)
  induction run with
  | nil => exact .cons (hmiss [] hrun) .nil
  | cons c run ih => exact .cons (hmiss (c :: run) hrun) (ih fun d hd => hrun d (by simp [hd]))

def ConstantLine.keyed? (before after : String) (line : ConstantLine) :
    Option (String × String) :=
  (keyBetween? before.toList after.toList line.constantName.toList).map fun key =>
    (String.ofList key, line.value.1)

/-- Behind its first character no constant begins in a line. -/
theorem ConstantLine.yields_tail (before after : String) (line : ConstantLine) :
    Yields (keyedConstantAt? before after) line.text.toList.tail [] := by
  have htail : line.text.toList.tail = "onst ".toList ++
      ((line.constantName.toList ++ [':']) ++ (" &str = ".toList ++
        (('"' :: line.value.1.toList ++ ['"']) ++ [';']))) := by
    simp [text, constantText]
  have hname : ∀ c ∈ line.constantName.toList, isBlank c = false := fun c hc =>
    isBlank_eq_false_of_isNameChar (isNameChar_of_isIdentChar (line.isIdentChar_constantName c hc))
  have hquoted : ∀ c ∈ '"' :: line.value.1.toList ++ ['"'], isBlank c = false := by
    intro c hc
    simp only [List.cons_append, List.mem_cons, List.mem_append, List.not_mem_nil, or_false] at hc
    rcases hc with rfl | hc | rfl
    · decide
    · exact isBlank_eq_false_of_isNameChar (line.value.2.2 c hc)
    · decide
  have honst := yields_of_not_mem before after (show 'c' ∉ "onst ".toList by decide)
  have hcolon := yields_word before after hname (show ':' ∉ "const".toList by decide) (by decide)
  have htype := yields_of_not_mem before after (show 'c' ∉ " &str = ".toList by decide)
  have hend := yields_word before after hquoted (show ';' ∉ "const".toList by decide) (by decide)
  rw [htail]
  exact honst.append (hcolon.append (htype.append hend))

theorem ConstantLine.yields_text (before after : String) (line : ConstantLine) :
    Yields (keyedConstantAt? before after) line.text.toList (line.keyed? before after).toList := by
  obtain ⟨hne, hvalue⟩ := line.value.2
  have hne : line.value.1.toList ≠ [] := by simpa using hne
  have hat := constantAt?_constantText line.isIdentChar_constantName hne
    (not_mem_of_isNameChar hvalue (by decide))
  have htext : line.text.toList =
      (constantText line.constantName line.value.1).toList ++ [';'] := by
    simp [text]
  cases hkey : keyBetween? before.toList after.toList line.constantName.toList with
  | some key =>
      have hhit : Yields (keyedConstantAt? before after)
          (constantText line.constantName line.value.1).toList
          [(String.ofList key, line.value.1)] := by
        refine .hit (by simp [constantText]) fun rest => ?_
        simp [keyedConstantAt?, hat, hkey]
      rw [htext, keyed?, hkey]
      exact hhit.append (yields_of_not_mem before after (by decide))
  | none =>
      have hmiss : ∀ rest, keyedConstantAt? before after (line.text.toList ++ rest) = none := by
        intro rest
        rw [htext, List.append_assoc]
        simp [keyedConstantAt?, hat, hkey]
      have hcons : line.text.toList = 'c' :: line.text.toList.tail := by
        simp [text, constantText]
      rw [hcons] at hmiss
      rw [hcons, keyed?, hkey]
      exact .cons hmiss (line.yields_tail before after)

/-! ## The constants of a script -/

theorem constants_scriptOf (before after : String) (lines : List ConstantLine) :
    constants before after (scriptOf lines).toList = lines.filterMap (·.keyed? before after) := by
  have hbreak := yields_of_not_mem before after (show 'c' ∉ "\n".toList by decide)
  have hjoined := Yields.intercalate hbreak (fun line => line.yields_text before after) lines
  rw [scriptOf, String.toList_intercalate, List.map_map, constants_eq]
  exact hjoined.findAll_eq

theorem keyBetween?_append (before key after : List Char) :
    keyBetween? before after (before ++ (key ++ after)) = if key = [] then none else some key := by
  rw [keyBetween?, dropPrefix?_append, Option.bind_some, dropSuffix?_append, Option.filter_some]
  cases key <;> rfl

theorem keyBetween?_eq_none {before after name : List Char} (h : ¬ after <:+ name) :
    keyBetween? before after name = none := by
  rw [Option.eq_none_iff_forall_ne_some]
  intro key hkey
  obtain ⟨rest, hrest, hkey⟩ := Option.bind_eq_some_iff.mp (Option.filter_eq_some_iff.mp hkey).1
  rw [dropPrefix?_eq_some_iff] at hrest
  have hsuffix : after <:+ rest := by
    by_contra hnot
    simp [dropSuffix?, hnot] at hkey
  rw [hrest] at h
  exact h (hsuffix.trans (List.suffix_append before rest))

namespace ConstantLine

variable {line : ConstantLine} {before key after start other : String}

theorem keyed?_of_constantName (h : line.constantName = before ++ key ++ after) :
    line.keyed? before after = if key = "" then none else some (key, line.value.1) := by
  have hkey := keyBetween?_append before.toList key.toList after.toList
  rw [keyed?, h, String.toList_append, String.toList_append, List.append_assoc, hkey]
  by_cases hempty : key = "" <;> simp [hempty]

/-- Two texts of which neither ends the other do not both end a name. -/
theorem keyed?_of_other_end (h : line.constantName = start ++ other)
    (hshort : ¬ after.toList <:+ other.toList) (hlong : ¬ other.toList <:+ after.toList) :
    line.keyed? before after = none := by
  have hother : other.toList <:+ line.constantName.toList := by
    rw [h, String.toList_append]
    exact List.suffix_append _ _
  have hafter : ¬ after.toList <:+ line.constantName.toList := fun hafter =>
    (List.suffix_or_suffix_of_suffix hafter hother).elim hshort hlong
  rw [keyed?, keyBetween?_eq_none hafter, Option.map_none]

theorem keyed?_namespace (line : ConstantLine) :
    line.keyed? "" "_LIB_NAMESPACE" =
      (line.named?.filter (·.key.1 ≠ "")).map fun pair => (pair.key.1, pair.namespaceName.1) := by
  cases line with
  | namespaceOf pair =>
      have hname : (namespaceOf pair).constantName = "" ++ pair.key.1 ++ "_LIB_NAMESPACE" := by
        rw [String.empty_append]
        rfl
      rw [keyed?_of_constantName hname]
      by_cases hkey : pair.key.1 = "" <;> simp [hkey, named?, value, Option.filter_some]
  | subdirOf pair =>
      have hname : (subdirOf pair).constantName = "ASM_" ++ pair.key.1 ++ "_DIR" := rfl
      exact keyed?_of_other_end hname (by decide) (by decide)

theorem keyed?_dir (line : ConstantLine) :
    line.keyed? "ASM_" "_DIR" =
      (line.placed?.filter (·.key.1 ≠ "")).map fun pair => (pair.key.1, pair.subdir.1) := by
  cases line with
  | namespaceOf pair =>
      have hname : (namespaceOf pair).constantName = pair.key.1 ++ "_LIB_NAMESPACE" := rfl
      exact keyed?_of_other_end hname (by decide) (by decide)
  | subdirOf pair =>
      have hname : (subdirOf pair).constantName = "ASM_" ++ pair.key.1 ++ "_DIR" := rfl
      rw [keyed?_of_constantName hname]
      by_cases hkey : pair.key.1 = "" <;> simp [hkey, placed?, value, Option.filter_some]

end ConstantLine

theorem namespaceConstants_scriptOf (lines : List ConstantLine) :
    namespaceConstants (scriptOf lines) =
      (withKey (namedPairs lines)).map fun pair => (pair.key.1, pair.namespaceName.1) := by
  rw [namespaceConstants, constants_scriptOf]
  simp only [ConstantLine.keyed?_namespace, withKey, namedPairs, List.filter_filterMap,
    List.map_filterMap]

theorem dirConstants_scriptOf (lines : List ConstantLine) :
    dirConstants (scriptOf lines) =
      (withKey (lines.filterMap (·.placed?))).map fun pair => (pair.key.1, pair.subdir.1) := by
  rw [dirConstants, constants_scriptOf]
  simp only [ConstantLine.keyed?_dir, withKey, List.filter_filterMap, List.map_filterMap]

/-- Nothing is called in a script without parentheses. -/
theorem assembleCalls_of_not_mem {cs : List Char} (h : '(' ∉ cs) : assembleCalls cs = [] := by
  rw [List.eq_nil_iff_forall_not_mem]
  intro call hcall
  obtain ⟨offset, length, hmatch⟩ := mem_findAllFrom hcall
  obtain ⟨⟨name, _⟩, hat, -⟩ := Option.map_eq_some_iff.mp hmatch
  simp only [assembleCallAt?, Option.bind_eq_bind, Option.bind_eq_some_iff] at hat
  obtain ⟨rest, hword, arguments, hopen, -⟩ := hat
  have hrest : '(' ∈ skipOptionalBlanks rest := by
    rw [dropPrefix?_eq_some_iff.mp hopen]
    simp
  have hdrop : '(' ∈ cs.drop offset := by
    rw [dropPrefix?_eq_some_iff.mp hword]
    exact List.mem_append_right _ ((List.dropWhile_sublist _).mem hrest)
  exact h (List.mem_of_mem_drop hdrop)

theorem not_mem_text (line : ConstantLine) : '(' ∉ line.text.toList := by
  have hname := not_mem_of_isNameChar
    (fun c hc => isNameChar_of_isIdentChar (line.isIdentChar_constantName c hc))
    (show isNameChar '(' = false by decide)
  have hvalue := not_mem_of_isNameChar line.value.2.2 (show isNameChar '(' = false by decide)
  simp [ConstantLine.text, constantText, hname, hvalue]

theorem assembleCalls_scriptOf (lines : List ConstantLine) :
    assembleCalls (scriptOf lines).toList = [] := by
  refine assembleCalls_of_not_mem ?_
  rw [scriptOf, String.toList_intercalate, List.map_map]
  induction lines with
  | nil => simp [List.intercalate]
  | cons line rest ih =>
      cases rest with
      | nil => simpa using not_mem_text line
      | cons next rest =>
          rw [List.map_cons, List.map_cons, List.intercalate_cons_cons, List.mem_append,
            List.mem_append, not_or, not_or]
          exact ⟨⟨not_mem_text line, by decide⟩, ih⟩

/-! ## The bindings of a script -/

theorem foldl_addDeclared {dirs : OrderedMap String String} {pairs : List ConstantPair}
    (h : ∀ pair ∈ pairs, dirs.get? pair.key.1 = some pair.subdir.1) :
    (pairs.map fun pair => (pair.key.1, pair.namespaceName.1)).foldl (addDeclared dirs) .empty =
      ofList (pairs.map fun pair =>
        (pair.entry.1, (⟨pair.entry.1, pair.entry.2, true⟩ : Binding))) := by
  rw [ofList, List.foldl_map, List.foldl_map]
  refine List.foldl_ext _ _ _ fun m pair hpair => ?_
  simp only [addDeclared, h pair hpair]
  rfl

/-- If each key is there once and has its directory, the script binds what its pairs say. -/
theorem bindings_scriptOf (excluded : List String) {lines : List ConstantLine}
    (hkeys : ((withKey (namedPairs lines)).map (·.key.1)).Nodup)
    (hdirs : ∀ pair ∈ withKey (namedPairs lines),
      (ofList (dirConstants (scriptOf lines))).get? pair.key.1 = some pair.subdir.1) :
    bindings excluded (scriptOf lines) =
      (ofList ((withKey (namedPairs lines)).map (·.entry))).entries.map fun entry =>
        ⟨entry.1, entry.2, true⟩ := by
  have hcalls := assembleCalls_scriptOf lines
  have hentries : (ofList (namespaceConstants (scriptOf lines))).entries =
      (withKey (namedPairs lines)).map fun pair => (pair.key.1, pair.namespaceName.1) := by
    rw [namespaceConstants_scriptOf]
    exact entries_ofList_of_nodup (by rwa [List.map_map])
  have hbindings : bindings excluded (scriptOf lines) =
      ((ofList (namespaceConstants (scriptOf lines))).entries.foldl
        (addDeclared (ofList (dirConstants (scriptOf lines)))) .empty).values := by
    simp only [bindings, hcalls, List.foldl_nil, namespaceConstants, dirConstants]
  have hvalues := entries_ofList_map (fun entry : String × String =>
    (⟨entry.1, entry.2, true⟩ : Binding)) ((withKey (namedPairs lines)).map (·.entry))
  rw [List.map_map] at hvalues
  rw [hbindings, hentries, foldl_addDeclared hdirs, values]
  exact (congrArg (List.map (·.2)) hvalues).trans (List.map_map ..)

theorem bindsLast_ofList (entries : List (String × String)) :
    BindsLast ((ofList entries).entries.map fun entry => ⟨entry.1, entry.2, true⟩) entries where
  names := by
    rw [List.map_map, ← keys_ofList]
    rfl
  declared := by
    intro binding hbinding
    obtain ⟨entry, -, rfl⟩ := List.mem_map.mp hbinding
    rfl
  subdirs := by
    intro binding hbinding
    obtain ⟨entry, hentry, rfl⟩ := List.mem_map.mp hbinding
    rw [← get?_ofList]
    exact get?_of_mem (nodup_keys_ofList entries) hentry

variable {pairs : List ConstantPair} {lines : List ConstantLine}

/-- Of the two lines of a pair one gives the namespace, and one the directory. -/
theorem perm_filterMap {part? : ConstantLine → Option ConstantPair}
    (hpart : ∀ pair : ConstantPair, pair.lines.filterMap part? = [pair])
    (hlines : lines.Perm (pairs.flatMap (·.lines))) : (lines.filterMap part?).Perm pairs := by
  have hall : (pairs.flatMap (·.lines)).filterMap part? = pairs := by
    simp only [List.filterMap_flatMap, hpart, List.flatMap_singleton']
  have hperm := hlines.filterMap part?
  rwa [hall] at hperm

theorem nodup_withKey {listed : List ConstantPair} (hkeys : (pairs.map (·.key)).Nodup)
    (hperm : listed.Perm pairs) : ((withKey listed).map (·.key.1)).Nodup := by
  have hlisted : (listed.map (·.key)).Nodup := (hperm.map _).nodup_iff.mpr hkeys
  have hkeyed : ((withKey listed).map (·.key)).Nodup :=
    hlisted.sublist (List.filter_sublist.map _)
  have hvalues := hkeyed.map Subtype.val_injective
  rwa [List.map_map] at hvalues

/-- From the constants of pairs with distinct keys, in any order, every namespace that some
non-empty key names is declared, once and where it is named first, in the directory of the
last non-empty key that names it; nothing else is bound. -/
theorem bindsLast_scriptOf (excluded : List String) (hkeys : (pairs.map (·.key)).Nodup)
    (hlines : lines.Perm (pairs.flatMap (·.lines))) :
    BindsLast (bindings excluded (scriptOf lines))
      ((withKey (namedPairs lines)).map (·.entry)) := by
  have hnamed : (namedPairs lines).Perm pairs := perm_filterMap (fun _ => rfl) hlines
  have hplaced : (lines.filterMap (·.placed?)).Perm pairs := perm_filterMap (fun _ => rfl) hlines
  have hdirs : ∀ pair ∈ withKey (namedPairs lines),
      (ofList (dirConstants (scriptOf lines))).get? pair.key.1 = some pair.subdir.1 := by
    intro pair hpair
    obtain ⟨hpair, hkey⟩ := List.mem_filter.mp hpair
    have hmem : pair ∈ withKey (lines.filterMap (·.placed?)) :=
      List.mem_filter.mpr ⟨hplaced.mem_iff.mpr (hnamed.mem_iff.mp hpair), hkey⟩
    have hentries : (ofList (dirConstants (scriptOf lines))).entries =
        (withKey (lines.filterMap (·.placed?))).map fun pair => (pair.key.1, pair.subdir.1) := by
      rw [dirConstants_scriptOf]
      refine entries_ofList_of_nodup ?_
      rw [List.map_map]
      exact nodup_withKey hkeys hplaced
    have hentry : (pair.key.1, pair.subdir.1) ∈
        (ofList (dirConstants (scriptOf lines))).entries := by
      rw [hentries]
      exact List.mem_map.mpr ⟨pair, hmem, rfl⟩
    exact get?_of_mem (nodup_keys_ofList _) hentry
  rw [bindings_scriptOf excluded (nodup_withKey hkeys hnamed) hdirs]
  exact bindsLast_ofList _

def entangledPairs : List ConstantPair :=
  let namespaceName : Name := ⟨"miden::s", by simp [isNameChar]⟩
  [⟨⟨"ASM", by simp [isIdentChar]⟩, namespaceName, ⟨"d", by simp [isNameChar]⟩⟩,
    ⟨⟨"ASM_A_LIB_NAMESPACE_DIR", by simp [isIdentChar]⟩, namespaceName,
      ⟨"e/f", by simp [isNameChar]⟩⟩]

theorem bindings_entangledPairs :
    let lines := (entangledPairs.flatMap (·.lines)).reverse
    (entangledPairs.map (·.key)).Nodup ∧ lines.Perm (entangledPairs.flatMap (·.lines)) ∧
      bindings ["ASM"] (scriptOf lines) = [⟨"miden::s", "d", true⟩] := by
  intro lines
  have hkeys : (entangledPairs.map (·.key)).Nodup := by decide
  have hlines : lines.Perm (entangledPairs.flatMap (·.lines)) := List.reverse_perm _
  have hbinds := bindsLast_scriptOf ["ASM"] hkeys hlines
  refine ⟨hkeys, hlines, ?_⟩
  have hnames : (bindings ["ASM"] (scriptOf lines)).map (·.namespaceName) = ["miden::s"] :=
    hbinds.names.trans (by decide)
  obtain ⟨binding, hbinding, hname⟩ := List.map_eq_singleton_iff.mp hnames
  have hmem : binding ∈ bindings ["ASM"] (scriptOf lines) := by simp [hbinding]
  have hsubdir := hbinds.subdirs binding hmem
  rw [hname] at hsubdir
  have hlast : lastValue? "miden::s" ((withKey (namedPairs lines)).map (·.entry)) = some "d" := by
    decide
  have hbound : binding.subdir = "d" := Option.some.inj (hsubdir.symm.trans hlast)
  rw [hbinding, ← hname, ← hbound, ← hbinds.declared binding hmem]

def keylessPair : ConstantPair :=
  ⟨⟨"", by simp⟩, ⟨"s", by simp [isNameChar]⟩, ⟨"d", by simp [isNameChar]⟩⟩

/-- The scans take no empty key, so not every namespace that a line gives is bound. -/
theorem not_bindsLast_keylessPair :
    ¬ ∀ (excluded : List String) (pairs : List ConstantPair) (lines : List ConstantLine),
      (pairs.map (·.key)).Nodup → lines.Perm (pairs.flatMap (·.lines)) →
        BindsLast (bindings excluded (scriptOf lines)) ((namedPairs lines).map (·.entry)) := by
  intro h
  have hbinds := h [] [keylessPair] keylessPair.lines (by decide) (.refl _)
  have hnone : bindings [] (scriptOf keylessPair.lines) = [] := by decide +kernel
  have hnames := hbinds.names
  rw [hnone] at hnames
  revert hnames
  decide

end AsmNavigator.BuildScript
