import AsmNavigator.OrderedMap

/-!
# Configuration

The settings with their built-in values.
-/

namespace AsmNavigator.Config

inductive LogLevel where
  | debug
  | info
  | warning
  | error
  | critical
  deriving DecidableEq, Repr

inductive LogFormat where
  | json
  | console
  deriving DecidableEq, Repr

/-- One destination of log lines. -/
structure LogOutput where
  format : LogFormat := .console
  /-- `stderr`, `stdout` or an absolute path. -/
  destination : String := "stderr"
  /-- The level of the whole log applies where there is none. -/
  level? : Option LogLevel := none
  deriving DecidableEq, Repr

structure Logging where
  level : LogLevel := .warning
  outputs : List LogOutput := [{}]
  deriving DecidableEq, Repr

/-- How projects are laid out on disk. -/
structure Layout where
  moduleExtension : String := ".masm"
  moduleIndexFile : String := "mod.masm"
  libraryDir : String := "asm"
  kernelLibDir : String := "lib"
  sharedModulesDir : String := "shared_modules"
  cratesDir : String := "crates"
  buildScript : String := "build.rs"
  workspaceManifest : String := "Cargo.toml"
  maxRootDepth : Nat := 15
  maxAliasDepth : Nat := 5
  deriving DecidableEq, Repr

/-- The registry of external packages. -/
structure Registry where
  root? : Option String := none
  stdlibPackage : String := "miden-stdlib"
  /-- Namespaces that only the registry serves, with their packages. -/
  externalNamespaces : OrderedMap String String := ⟨[("core", "miden-core-lib")]⟩
  /-- Directory constants that hold one of these name no library. -/
  excludedDirKeywords : List String := ["NOTE_SCRIPT", "ACCOUNT_COMPONENT"]
  deriving DecidableEq

structure Settings where
  logging : Logging := {}
  layout : Layout := {}
  registry : Registry := {}
  deriving DecidableEq

end AsmNavigator.Config
