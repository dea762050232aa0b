import AsmNavigator.Config.Validate
import AsmNavigator.Data.Json.Reader
import AsmNavigator.Data.Merge
import AsmNavigator.Text.LowerCase

/-!
# Settings from variables

A variable names a section, and perhaps a place below it, in any case. The variable of a
section holds JSON; below it, values are texts except for settings that are lists or
mappings, which are JSON again.
-/

namespace AsmNavigator.Config.Variables

def separator : String := "__"

/-- What the names of all variables begin with. -/
def family : String := "masmnav" ++ separator

/-- Variables by their lower-case names; of several the last counts. -/
def lowered (env : Environment) : List (String × String) :=
  (OrderedMap.ofList (env.vars.entries.map fun entry =>
    (Text.lowerCase entry.1, entry.2))).entries

/-- The settings of each section that are lists or mappings. -/
def structured : String → List String
  | "logging" => ["outputs"]
  | "registry" => ["external_namespaces", "excluded_dir_keywords"]
  | _ => []

def settingsOf : String → List String
  | "logging" => ["level", "outputs"]
  | "layout" =>
      ["module_extension", "module_index_file", "library_dir", "kernel_lib_dir",
        "shared_modules_dir", "crates_dir", "build_script", "workspace_manifest",
        "max_root_depth", "max_alias_depth"]
  | "registry" => ["root", "stdlib_package", "external_namespaces", "excluded_dir_keywords"]
  | _ => []

/-- Sets the value at a path of keys, with mappings on the way. What is no mapping bars
the way. -/
def setAt (value : Value) : List String → List (Scalar × Value) → List (Scalar × Value)
  | [], entries => entries
  | [key], entries => OrderedMap.put (.text key) value entries
  | key :: rest, entries =>
      match OrderedMap.find? (.text key) entries with
      | some (.map inner) => OrderedMap.put (.text key) (.map (setAt value rest inner)) entries
      | some _ => entries
      | none => OrderedMap.put (.text key) (.map (setAt value rest [])) entries

/-- The value that a variable below a section gives to the place `keys`. -/
def valueAt (depth : Nat) (sectionName : String) (keys : List String) (s : String) :
    Except Json.Fault Value :=
  match keys with
  | [key] =>
      if (structured sectionName).contains key && s ≠ "" then Json.read depth s
      else .ok (.text s)
  | _ => .ok (.text s)

def below (depth : Nat) (sectionName : String) (vars : List (String × String)) :
    Except Json.Fault (List (Scalar × Value)) :=
  vars.foldlM (fun entries (name, s) =>
    match Text.dropPrefix? (family ++ sectionName ++ separator).toList name.toList with
    | none => .ok entries
    | some rest => do
        let keys := Text.split separator (String.ofList rest)
        return setAt (← valueAt depth sectionName keys s) keys entries) []

/-- Entries with the names of settings written as the settings are. -/
def canonical (sectionName : String) (entries : List (Scalar × Value)) : List (Scalar × Value) :=
  entries.foldl (fun done (key, value) =>
    let key := match key with
      | .text name =>
          let lowered := Text.lowerCase name
          .text (if (settingsOf sectionName).contains lowered then lowered else name)
      | key => key
    OrderedMap.put key value done) []

def sectionValue (depth : Nat) (sectionName : String) (vars : List (String × String)) :
    Except Json.Fault (Option Value) :=
  match vars.lookup (family ++ sectionName) with
  | none => do
      let entries ← below depth sectionName vars
      return if entries.isEmpty then none else some (.map (canonical sectionName entries))
  | some s => do
      match ← Json.read depth s with
      | .map entries =>
          let entries := Value.mergeEntries entries (← below depth sectionName vars)
          return some (.map (canonical sectionName entries))
      | value => return if value.isNull then none else some value

structure Unreadable where
  sectionName : String
  fault : Json.Fault

/-- All that the variables say. An unreadable value is reported by its section. -/
def entries (env : Environment) : Except Unreadable (List (Scalar × Value)) :=
  let vars := lowered env
  Settings.sections.foldlM (fun found name =>
    match sectionValue env.nesting name vars with
    | .error fault => .error ⟨name, fault⟩
    | .ok none => .ok found
    | .ok (some value) => .ok (OrderedMap.put (.text name) value found)) []

end AsmNavigator.Config.Variables
