import TypedMvc.Files.Tree
import TypedMvc.Settings.Validity
import TypedMvc.Toml.Document
import TypedMvc.Unicode.Case

/-!
# Loading the configuration

The configuration comes from the document in the project's directory, if there is one. Some
settings can be overridden by variables of the environment. The outcome has to be valid.
-/

namespace TypedMvc.Settings

/-- The name of the document. -/
def configFile : String := "r4mvc.toml"

/-- The settings that the environment overrides. -/
structure Overrides where
  /-- The name of the class with a field for each controller. -/
  helpersPrefix : Option String := none
  /-- The namespace of the generated classes. -/
  namespaceName : Option String := none
  /-- The name of the class with a field for each static file. -/
  linksClass : Option String := none
  /-- The path of the generated file. -/
  outputFile : Option String := none
  deriving Repr, DecidableEq, Inhabited

/-- The overrides in the variables of an environment. -/
def Overrides.ofEnvironment (lookup : String → Option String) : Overrides :=
  { helpersPrefix := lookup "R4MVC_HELPERS_PREFIX"
    namespaceName := lookup "R4MVC_NAMESPACE"
    linksClass := lookup "R4MVC_LINKS_CLASS"
    outputFile := lookup "R4MVC_OUTPUT_FILE" }

/-- The settings with overrides. -/
def Generation.override (settings : Generation) (overrides : Overrides) : Generation :=
  { settings with
    helpersPrefix := overrides.helpersPrefix.getD settings.helpersPrefix
    namespaceName := overrides.namespaceName.getD settings.namespaceName
    linksClass := overrides.linksClass.getD settings.linksClass
    outputFile := overrides.outputFile.getD settings.outputFile }

/-- An extension in lower case and without dots in front. -/
def normalizeExtension (extension : String) : String :=
  Unicode.lower (String.ofList (extension.toList.dropWhile (· == '.')))

/-- Extensions in lower case and without dots in front. Those of which nothing is left are
dropped. -/
def normalizeExtensions (extensions : List String) : List String :=
  (extensions.map normalizeExtension).filter (· ≠ "")

/-- The configuration with its extensions brought into the form in which they are compared. -/
def Config.normalize (config : Config) : Config :=
  { config with
    locators := { config.locators with
      viewExtensions := normalizeExtensions config.locators.viewExtensions } }

/-- Why a configuration cannot be loaded. -/
inductive LoadError where
  /-- A directory has the name of the document. -/
  | isADirectory
  /-- The document is no text. -/
  | notText
  /-- The document is not well formed or does not hold a configuration. -/
  | malformed
  /-- The configuration is not valid. -/
  | invalid (fault : Fault)
  deriving Repr, DecidableEq, Inhabited

/-- The message for a configuration that cannot be loaded. -/
def LoadError.message : LoadError → String
  | .isADirectory => Files.Obstacle.isADirectory.message
  | .notText => "stream did not contain valid UTF-8"
  | .malformed => "TOML parse error"
  | .invalid fault => fault.message

/-- The sections of a document, each with the number of its settings. -/
def sections : List (String × Nat) := [("generation", 5), ("analysis", 1), ("locators", 4)]

/-- The value of a document without what is too much in it: where a section is an array of its
settings in order, items behind the last setting are passed over. -/
def withoutSurplus : Data.Value → Data.Value
  | .object fields =>
    .object (fields.map fun (name, value) =>
      match sections.lookup name, value with
      | some count, .array items => (name, .array (items.take count))
      | _, _ => (name, value))
  | value => value

/-- The configuration in a document, or the defaults without one. -/
def Config.ofDocument? (document : Option String)
    (valueOf? : Toml.DocumentReader := Toml.document?) : Option Config :=
  match document with
  | none => some {}
  | some document =>
    (valueOf? document).bind fun value => Config.ofValue? (withoutSurplus value)

/-- The configuration from a document, or the defaults without one, with overrides. -/
def Config.load (document : Option String) (overrides : Overrides)
    (valueOf? : Toml.DocumentReader := Toml.document?) : Except LoadError Config :=
  match Config.ofDocument? document valueOf? with
  | none => .error .malformed
  | some config =>
    let config := config.normalize
    let config := { config with generation := config.generation.override overrides }
    match config.fault? with
    | some fault => .error (.invalid fault)
    | none => .ok config

/-- The text of a document, if there is one. -/
def documentIn : Option Files.Entry → Except LoadError (Option String)
  | none => .ok none
  | some (.directory _) => .error .isADirectory
  | some (.file content) =>
    match String.fromUTF8? content with
    | some text => .ok (some text)
    | none => .error .notText

/-- The text of the document in a project's directory, if there is one. -/
def readDocument (disk : Files.Disk) (directory : String) : Except LoadError (Option String) :=
  documentIn (disk.entry? (Files.Path.join directory configFile))

/-- The configuration of the project in a directory. -/
def Config.loadFrom (disk : Files.Disk) (directory : String) (overrides : Overrides)
    (valueOf? : Toml.DocumentReader := Toml.document?) : Except LoadError Config :=
  (readDocument disk directory).bind fun document => Config.load document overrides valueOf?

end TypedMvc.Settings
