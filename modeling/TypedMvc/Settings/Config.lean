import TypedMvc.Data.Value

/-!
# The configuration

The settings of a run in three groups: how the generated code is named, which sources are left
out, and where views and static files are found. Everything has a default.
-/

namespace TypedMvc.Settings

open Data

/-- How the generated code is named. -/
structure Generation where
  /-- The name of the class with a field for each controller. -/
  helpersPrefix : String := "MVC"
  /-- The namespace of that class and of the one for static files; empty for the global one. -/
  namespaceName : String := ""
  /-- The name of the class with a field for each static file. -/
  linksClass : String := "Links"
  /-- What the names of controller types end with. -/
  controllerSuffix : String := "Controller"
  /-- The path of the generated file from the project's directory. -/
  outputFile : String := "R4Mvc.generated.cs"
  deriving Repr, DecidableEq, Inhabited

/-- Which sources are read. -/
structure Analysis where
  /-- Patterns of the paths that are left out. -/
  exclude : List String := ["bin/**", "obj/**"]
  deriving Repr, DecidableEq, Inhabited

/-- Where views and static files are found. -/
structure Locators where
  /-- The directory with a folder of views for each controller. -/
  viewsFolder : String := "Views"
  /-- The extensions of view files, without the dot. -/
  viewExtensions : List String := ["cshtml"]
  /-- The directory of the static files. -/
  staticRoot : String := "wwwroot"
  /-- Patterns of the static files that are left out. -/
  staticExclude : List String := []
  deriving Repr, DecidableEq, Inhabited

/-- The configuration of a run. -/
structure Config where
  /-- How the generated code is named. -/
  generation : Generation := {}
  /-- Which sources are read. -/
  analysis : Analysis := {}
  /-- Where views and static files are found. -/
  locators : Locators := {}
  deriving Repr, DecidableEq, Inhabited

/-! ## As structured data -/

namespace Generation

/-- The settings as a value. -/
def toValue (settings : Generation) : Value :=
  .object [("helpers_prefix", .text settings.helpersPrefix),
    ("namespace", .text settings.namespaceName), ("links_class", .text settings.linksClass),
    ("controller_suffix", .text settings.controllerSuffix),
    ("output_file", .text settings.outputFile)]

/-- The settings from a value. -/
def ofValue? (value : Value) : Option Generation := do
  let record ← Record.ofValue? 5 value
  let defaults : Generation := {}
  let helpersPrefix ← record.withDefault 0 "helpers_prefix" Value.asText? defaults.helpersPrefix
  let namespaceName ← record.withDefault 1 "namespace" Value.asText? defaults.namespaceName
  let linksClass ← record.withDefault 2 "links_class" Value.asText? defaults.linksClass
  let controllerSuffix ←
    record.withDefault 3 "controller_suffix" Value.asText? defaults.controllerSuffix
  let outputFile ← record.withDefault 4 "output_file" Value.asText? defaults.outputFile
  return { helpersPrefix, namespaceName, linksClass, controllerSuffix, outputFile }

end Generation

namespace Analysis

/-- The settings as a value. -/
def toValue (settings : Analysis) : Value := .object [("exclude", .ofTexts settings.exclude)]

/-- The settings from a value. -/
def ofValue? (value : Value) : Option Analysis := do
  let record ← Record.ofValue? 1 value
  let defaults : Analysis := {}
  let exclude ← record.withDefault 0 "exclude" Value.asTexts? defaults.exclude
  return { exclude }

end Analysis

namespace Locators

/-- The settings as a value. -/
def toValue (settings : Locators) : Value :=
  .object [("views_folder", .text settings.viewsFolder),
    ("view_extensions", .ofTexts settings.viewExtensions),
    ("static_root", .text settings.staticRoot),
    ("static_exclude", .ofTexts settings.staticExclude)]

/-- The settings from a value. -/
def ofValue? (value : Value) : Option Locators := do
  let record ← Record.ofValue? 4 value
  let defaults : Locators := {}
  let viewsFolder ← record.withDefault 0 "views_folder" Value.asText? defaults.viewsFolder
  let viewExtensions ←
    record.withDefault 1 "view_extensions" Value.asTexts? defaults.viewExtensions
  let staticRoot ← record.withDefault 2 "static_root" Value.asText? defaults.staticRoot
  let staticExclude ← record.withDefault 3 "static_exclude" Value.asTexts? defaults.staticExclude
  return { viewsFolder, viewExtensions, staticRoot, staticExclude }

end Locators

namespace Config

/-- The configuration as a value. -/
def toValue (config : Config) : Value :=
  .object [("generation", config.generation.toValue), ("analysis", config.analysis.toValue),
    ("locators", config.locators.toValue)]

/-- The configuration from a value. -/
def ofValue? (value : Value) : Option Config := do
  let record ← Record.ofValue? 3 value
  let generation ← record.withDefault 0 "generation" Generation.ofValue? {}
  let analysis ← record.withDefault 1 "analysis" Analysis.ofValue? {}
  let locators ← record.withDefault 2 "locators" Locators.ofValue? {}
  return { generation, analysis, locators }

end Config

end TypedMvc.Settings
