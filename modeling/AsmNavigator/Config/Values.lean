import AsmNavigator.Config.Validate

/-!
# Settings as data

The value of every setting, which validation accepts again.
-/

namespace AsmNavigator.Config

def optionName [DecidableEq α] (options : List (String × α)) (a : α) : String :=
  ((options.find? fun entry => entry.2 = a).map (·.1)).getD ""

def LogLevel.name (level : LogLevel) : String := optionName LogLevel.options level

def LogFormat.name (format : LogFormat) : String := optionName LogFormat.options format

def LogOutput.toValue (output : LogOutput) : Value :=
  .object
    [("format", .text output.format.name), ("destination", .text output.destination),
      ("level", .ofOption (fun level => .text (LogLevel.name level)) output.level?)]

def Logging.toValue (logging : Logging) : Value :=
  .object
    [("level", .text logging.level.name), ("outputs", .list (logging.outputs.map (·.toValue)))]

def Layout.toValue (layout : Layout) : Value :=
  .object
    [("module_extension", .text layout.moduleExtension),
      ("module_index_file", .text layout.moduleIndexFile),
      ("library_dir", .text layout.libraryDir),
      ("kernel_lib_dir", .text layout.kernelLibDir),
      ("shared_modules_dir", .text layout.sharedModulesDir),
      ("crates_dir", .text layout.cratesDir),
      ("build_script", .text layout.buildScript),
      ("workspace_manifest", .text layout.workspaceManifest),
      ("max_root_depth", .int layout.maxRootDepth),
      ("max_alias_depth", .int layout.maxAliasDepth)]

def Registry.toValue (registry : Registry) : Value :=
  .object
    [("root", .ofOption .text registry.root?),
      ("stdlib_package", .text registry.stdlibPackage),
      ("external_namespaces",
        .object (registry.externalNamespaces.entries.map fun entry => (entry.1, .text entry.2))),
      ("excluded_dir_keywords", .texts registry.excludedDirKeywords)]

def Settings.toValue (settings : Settings) : Value :=
  .object
    [("logging", settings.logging.toValue), ("layout", settings.layout.toValue),
      ("registry", settings.registry.toValue)]

end AsmNavigator.Config
