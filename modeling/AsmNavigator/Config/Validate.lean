import AsmNavigator.Config.Types
import AsmNavigator.Files.World
import AsmNavigator.Schema.Integer

/-!
# Settings from data

Every section takes a mapping; fields that are absent keep their built-in values and
fields that are not known are ignored. Only the home directories of the environment
matter to the result.
-/

namespace AsmNavigator.Config

open Schema

def LogLevel.options : List (String × LogLevel) :=
  [("DEBUG", .debug), ("INFO", .info), ("WARNING", .warning), ("ERROR", .error),
    ("CRITICAL", .critical)]

def LogFormat.options : List (String × LogFormat) :=
  [("json", .json), ("console", .console)]

def isStreamName (destination : String) : Bool :=
  destination = "stderr" || destination = "stdout"

/-- A stream, or an absolute path with a leading `~` replaced. -/
def destination (env : Environment) (value : Value) : Check String :=
  (text value).andThen fun s =>
    if isStreamName s then .valid s
    else
      match env.expandHome (Path.ofString s) with
      | .error fault => .faulty fault
      | .ok path =>
          if path.isAbsolute then .valid path.toString
          else .reject (.refused ("File destination must be absolute path: " ++ s)) value

def extension (value : Value) : Check String :=
  (text value).andThen fun s =>
    if s.toList.head? = some '.' then .valid s
    else .reject (.refused ("Extension must start with '.': " ++ s)) value

def depth (value : Value) : Check Nat :=
  (integer value).andThen fun n =>
    if 1 ≤ n then .valid n.toNat
    else .reject (.refused s!"Depth must be at least 1, got {n}") value

def LogOutput.check (env : Environment) (value : Value) : Check LogOutput :=
  record "LogOutputConfig" value fun entries =>
    let builtIn : LogOutput := {}
    LogOutput.mk
      <$> field entries "format" builtIn.format (option LogFormat.options)
      <*> field entries "destination" builtIn.destination (Config.destination env)
      <*> field entries "level" builtIn.level? (optional (option LogLevel.options))

def Logging.check (env : Environment) (value : Value) : Check Logging :=
  record "LoggingConfig" value fun entries =>
    let builtIn : Logging := {}
    Logging.mk
      <$> field entries "level" builtIn.level (option LogLevel.options)
      <*> field entries "outputs" builtIn.outputs (list (LogOutput.check env))

def Layout.check (value : Value) : Check Layout :=
  record "LayoutConfig" value fun entries =>
    let builtIn : Layout := {}
    Layout.mk
      <$> field entries "module_extension" builtIn.moduleExtension extension
      <*> field entries "module_index_file" builtIn.moduleIndexFile text
      <*> field entries "library_dir" builtIn.libraryDir text
      <*> field entries "kernel_lib_dir" builtIn.kernelLibDir text
      <*> field entries "shared_modules_dir" builtIn.sharedModulesDir text
      <*> field entries "crates_dir" builtIn.cratesDir text
      <*> field entries "build_script" builtIn.buildScript text
      <*> field entries "workspace_manifest" builtIn.workspaceManifest text
      <*> field entries "max_root_depth" builtIn.maxRootDepth depth
      <*> field entries "max_alias_depth" builtIn.maxAliasDepth depth

def Registry.check (value : Value) : Check Registry :=
  record "RegistryConfig" value fun entries =>
    let builtIn : Registry := {}
    Registry.mk
      <$> field entries "root" builtIn.root? (optional text)
      <*> field entries "stdlib_package" builtIn.stdlibPackage text
      <*> field entries "external_namespaces" builtIn.externalNamespaces textMap
      <*> field entries "excluded_dir_keywords" builtIn.excludedDirKeywords (list text)

def Settings.sections : List String := ["logging", "layout", "registry"]

def Settings.ofEntries (env : Environment) (entries : List (Scalar × Value)) : Check Settings :=
  let builtIn : Settings := {}
  Settings.mk
    <$> field entries "logging" builtIn.logging (Logging.check env)
    <*> field entries "layout" builtIn.layout Layout.check
    <*> field entries "registry" builtIn.registry Registry.check

def Settings.check (env : Environment) (value : Value) : Check Settings :=
  record "MasmNavConfig" value (Settings.ofEntries env)

/-- One issue for each entry that is no section. -/
def unknownSections : List (Scalar × Value) → Check Unit
  | [] => .valid ()
  | (key, value) :: rest =>
      if Settings.sections.any fun name => key == .text name then unknownSections rest
      else
        (fun (_ : Unit) _ => ()) <$> (Check.reject .unknownField value).under (keyName key)
          <*> unknownSections rest

/-- As `ofEntries`, with an issue for everything that is no section. -/
def Settings.ofEntriesStrict (env : Environment) (entries : List (Scalar × Value)) :
    Check Settings :=
  (fun settings _ => settings) <$> Settings.ofEntries env entries <*> unknownSections entries

end AsmNavigator.Config
