import TypedMvc.Proofs.NormalExtensions

/-!
# Where each setting comes from

A setting comes from the first of three sources that has it: a variable of the environment, the
document, or the defaults (`Config.ofSources`). Loading works differently. It reads the whole
document with the defaults at once, brings the extensions into the form in which they are compared,
puts the variables over four of the settings, and then looks for a fault. Each section that is read
is what its parts give (`Config.ofSources_of_ofValue?`), with or without items that are too many
(`part?_withoutSurplus`), and the order of the steps does not matter (`load_eq`).
`loadFrom_ofSources` is the outcome, for any reader of documents.
-/

namespace TypedMvc.Data

/-! ## Parts of a record -/

/-- A part of a value that stands for a record: a field of an object by its name, or an item of an
array by its place. -/
def Value.part? (place : ℕ × String) : Value → Option Value
  | .object fields => fields.lookup place.2
  | .array items => items[place.1]?
  | _ => none

variable {α : Type} {record : Record} {value : Value} {size position : ℕ} {name : String}

/-- What is found in a record is the part of the value that the record is read from. -/
theorem Record.find?_eq_part? (isRecord : Record.ofValue? size value = some record) :
    record.find? position name = value.part? (position, name) := by
  unfold Record.ofValue? at isRecord
  split at isRecord
  · cases isRecord
    rfl
  · split at isRecord
    · cases isRecord
      rfl
    · cases isRecord
  · cases isRecord

/-- What holds of a missing part and the default, and of each part and what is read of it, holds of
the part of the value and a field with that default. -/
theorem Record.of_withDefault {motive : Option Value → α → Prop} {read : Value → Option α}
    {default a : α} (missing : motive none default)
    (reads : ∀ there a, read there = some a → motive (some there) a)
    (isRecord : Record.ofValue? size value = some record)
    (isRead : record.withDefault position name read default = some a) :
    motive (value.part? (position, name)) a := by
  rw [Record.withDefault, Record.find?_eq_part? isRecord] at isRead
  cases part : value.part? (position, name) with
  | none =>
    rw [part] at isRead
    cases isRead
    exact missing
  | some there =>
    rw [part] at isRead
    exact reads there a isRead

/-- A field with a default is what is read of the part of the value, if anything is. -/
theorem Record.eq_of_withDefault {read : Value → Option α} {default a : α}
    (isRecord : Record.ofValue? size value = some record)
    (isRead : record.withDefault position name read default = some a) :
    ((value.part? (position, name)).bind read).getD default = a := by
  refine of_withDefault (motive := fun part a => (part.bind read).getD default = a) rfl ?_
    isRecord isRead
  intro there a isRead
  rw [Option.bind_some, isRead, Option.getD_some]

end TypedMvc.Data

namespace TypedMvc.Settings

open Data

/-! ## Three sources -/

/-- The text at a place of a section, if a document has the section and a text there. -/
def textAt? (part : Option Value) (place : ℕ × String) : Option String :=
  (part.bind (Value.part? place)).bind Value.asText?

/-- The texts at a place of a section, if a document has the section and texts there. -/
def textsAt? (part : Option Value) (place : ℕ × String) : Option (List String) :=
  (part.bind (Value.part? place)).bind Value.asTexts?

/-- How the generated code is named, by the variables of an environment, a section of a document and
the defaults. -/
def Generation.ofSources (environment : String → Option String) (part : Option Value) :
    Generation where
  helpersPrefix :=
    ((environment "R4MVC_HELPERS_PREFIX").or (textAt? part (0, "helpers_prefix"))).getD "MVC"
  namespaceName := ((environment "R4MVC_NAMESPACE").or (textAt? part (1, "namespace"))).getD ""
  linksClass :=
    ((environment "R4MVC_LINKS_CLASS").or (textAt? part (2, "links_class"))).getD "Links"
  controllerSuffix := (textAt? part (3, "controller_suffix")).getD "Controller"
  outputFile :=
    ((environment "R4MVC_OUTPUT_FILE").or (textAt? part (4, "output_file"))).getD
      "R4Mvc.generated.cs"

/-- Which sources are read, by a section of a document and the defaults. -/
def Analysis.ofSources (part : Option Value) : Analysis where
  exclude := (textsAt? part (0, "exclude")).getD ["bin/**", "obj/**"]

/-- The extensions of view files as they are listed, in a section of a document or by default. -/
def listedExtensions (part : Option Value) : List String :=
  (textsAt? part (1, "view_extensions")).getD ["cshtml"]

/-- Where views and static files are found, by a section of a document and the defaults. -/
def Locators.ofSources (part : Option Value) : Locators where
  viewsFolder := (textAt? part (0, "views_folder")).getD "Views"
  viewExtensions := normalizeExtensions (listedExtensions part)
  staticRoot := (textAt? part (2, "static_root")).getD "wwwroot"
  staticExclude := (textsAt? part (3, "static_exclude")).getD []

/-- The configuration by the variables of an environment, a document and the defaults. -/
def Config.ofSources (environment : String → Option String) (document : Option Value) : Config where
  generation := .ofSources environment (document.bind (Value.part? (0, "generation")))
  analysis := .ofSources (document.bind (Value.part? (1, "analysis")))
  locators := .ofSources (document.bind (Value.part? (2, "locators")))

variable {value : Value} {environment : String → Option String}

/-- The variables come in front of the document, whatever that holds. -/
theorem Generation.ofSources_eq_override (environment : String → Option String)
    (part : Option Value) :
    ofSources environment part =
      (ofSources (fun _ => none) part).override (.ofEnvironment environment) := by
  simp only [ofSources, override, Overrides.ofEnvironment, Option.none_or, Option.getD_or]

/-- Settings that are read from a section are those that it holds, and the defaults. -/
theorem Generation.ofSources_of_ofValue? {settings : Generation}
    (isRead : Generation.ofValue? value = some settings) :
    Generation.ofSources (fun _ => none) (some value) = settings := by
  unfold Generation.ofValue? at isRead
  simp only [Option.bind_eq_bind, Option.bind_eq_some_iff, Option.pure_def,
    Option.some.injEq] at isRead
  obtain ⟨record, isRecord, helpersPrefix, first, namespaceName, second, linksClass, third,
    controllerSuffix, fourth, outputFile, fifth, rfl⟩ := isRead
  simp only [ofSources, textAt?, Option.none_or, Option.bind_some]
  rw [Record.eq_of_withDefault isRecord first, Record.eq_of_withDefault isRecord second,
    Record.eq_of_withDefault isRecord third, Record.eq_of_withDefault isRecord fourth,
    Record.eq_of_withDefault isRecord fifth]

/-- Settings that are read from a section are those that it holds, and the defaults. -/
theorem Analysis.ofSources_of_ofValue? {settings : Analysis}
    (isRead : Analysis.ofValue? value = some settings) :
    Analysis.ofSources (some value) = settings := by
  unfold Analysis.ofValue? at isRead
  simp only [Option.bind_eq_bind, Option.bind_eq_some_iff, Option.pure_def,
    Option.some.injEq] at isRead
  obtain ⟨record, isRecord, exclude, first, rfl⟩ := isRead
  simp only [ofSources, textsAt?, Option.bind_some]
  rw [Record.eq_of_withDefault isRecord first]

/-- Settings that are read from a section are those that it holds, and the defaults, but for the
form of the extensions. -/
theorem Locators.ofSources_of_ofValue? {settings : Locators}
    (isRead : Locators.ofValue? value = some settings) :
    Locators.ofSources (some value) =
      { settings with viewExtensions := normalizeExtensions settings.viewExtensions } := by
  unfold Locators.ofValue? at isRead
  simp only [Option.bind_eq_bind, Option.bind_eq_some_iff, Option.pure_def,
    Option.some.injEq] at isRead
  obtain ⟨record, isRecord, viewsFolder, first, viewExtensions, second, staticRoot, third,
    staticExclude, fourth, rfl⟩ := isRead
  simp only [ofSources, listedExtensions, textAt?, textsAt?, Option.bind_some]
  rw [Record.eq_of_withDefault isRecord first, Record.eq_of_withDefault isRecord second,
    Record.eq_of_withDefault isRecord third, Record.eq_of_withDefault isRecord fourth]

/-- A section that is missing, or is read, gives its settings. -/
theorem Config.ofSources_of_ofValue? {config : Config}
    (isRead : Config.ofValue? value = some config) :
    Config.ofSources (fun _ => none) (some value) = config.normalize := by
  unfold Config.ofValue? at isRead
  simp only [Option.bind_eq_bind, Option.bind_eq_some_iff, Option.pure_def,
    Option.some.injEq] at isRead
  obtain ⟨record, isRecord, generation, first, analysis, second, locators, third, rfl⟩ := isRead
  have naming : Generation.ofSources (fun _ => none) (value.part? (0, "generation")) =
      generation :=
    Record.of_withDefault
      (motive := fun part settings => Generation.ofSources (fun _ => none) part = settings)
      rfl (fun _ _ => Generation.ofSources_of_ofValue?) isRecord first
  have reading : Analysis.ofSources (value.part? (1, "analysis")) = analysis :=
    Record.of_withDefault (motive := fun part settings => Analysis.ofSources part = settings)
      rfl (fun _ _ => Analysis.ofSources_of_ofValue?) isRecord second
  have finding : Locators.ofSources (value.part? (2, "locators")) =
      { locators with viewExtensions := normalizeExtensions locators.viewExtensions } :=
    Record.of_withDefault
      (motive := fun part settings => Locators.ofSources part =
        { settings with viewExtensions := normalizeExtensions settings.viewExtensions })
      rfl (fun _ _ => Locators.ofSources_of_ofValue?) isRecord third
  rw [ofSources, Option.bind_some, Option.bind_some, Option.bind_some, naming, reading, finding,
    normalize]

/-! ## What is too much in a document -/

/-- Fields that are changed under their names are found by them. -/
theorem lookup_map_of_keeps {change : String × Value → String × Value}
    (keeps : ∀ field, (change field).1 = field.1) (fields : List (String × Value))
    (name : String) :
    (fields.map change).lookup name =
      (fields.lookup name).map fun value => (change (name, value)).2 := by
  induction fields with
  | nil => rfl
  | cons field rest ih =>
    have split : change field = (field.1, (change field).2) := Prod.ext (keeps field) rfl
    rw [List.map_cons, split, List.lookup_cons, List.lookup_cons, ih]
    split
    · rename_i same
      rw [eq_of_beq same]
      rfl
    · rfl

/-- The items that a section has too many are no settings of it. -/
theorem part?_withoutSurplus {group place : ℕ × String}
    (isSetting : place.1 < (sections.lookup group.2).getD 0) :
    ((withoutSurplus value).part? group).bind (Value.part? place) =
      (value.part? group).bind (Value.part? place) := by
  cases value with
  | object fields =>
    unfold withoutSurplus
    simp only [Value.part?]
    rw [lookup_map_of_keeps (by rintro ⟨name, value⟩; dsimp only; split <;> rfl)]
    cases found : fields.lookup group.2 with
    | none => rfl
    | some there =>
      rw [Option.map_some, Option.bind_some, Option.bind_some]
      cases known : sections.lookup group.2 with
      | none => rfl
      | some count =>
        -- The place is among the first items, and those are kept.
        rw [known, Option.getD_some] at isSetting
        cases there with
        | array items => exact List.getElem?_take_of_lt isSetting
        | _ => rfl
  | _ => rfl

/-- A document holds the same settings without what is too much in it. -/
theorem Config.ofSources_withoutSurplus (environment : String → Option String) (value : Value) :
    Config.ofSources environment (some (withoutSurplus value)) =
      Config.ofSources environment (some value) := by
  have text {group place : ℕ × String} (isSetting : place.1 < (sections.lookup group.2).getD 0) :
      textAt? ((withoutSurplus value).part? group) place = textAt? (value.part? group) place := by
    rw [textAt?, part?_withoutSurplus isSetting, textAt?]
  have texts {group place : ℕ × String} (isSetting : place.1 < (sections.lookup group.2).getD 0) :
      textsAt? ((withoutSurplus value).part? group) place = textsAt? (value.part? group) place := by
    rw [textsAt?, part?_withoutSurplus isSetting, textsAt?]
  simp (disch := decide) only [ofSources, Option.bind_some, Generation.ofSources,
    Analysis.ofSources, Locators.ofSources, listedExtensions, text, texts]

/-- The configuration of a document, without an environment and before it is checked. -/
theorem Config.ofSources_of_ofDocument? {valueOf? : Toml.DocumentReader} {text : Option String}
    {written : Config} (held : Config.ofDocument? text valueOf? = some written) :
    Config.ofSources (fun _ => none) (text.bind valueOf?) = written.normalize := by
  cases text with
  | none =>
    cases held
    rfl
  | some text =>
    obtain ⟨value, isValue, isRead⟩ := Option.bind_eq_some_iff.mp held
    rw [Option.bind_some, isValue, ← ofSources_withoutSurplus]
    exact ofSources_of_ofValue? isRead

/-- With a document that holds a configuration, the sources are put together and checked. -/
theorem load_eq {valueOf? : Toml.DocumentReader} {text : Option String}
    (parses : (Config.ofDocument? text valueOf?).isSome = true)
    (environment : String → Option String) :
    let config := Config.ofSources environment (text.bind valueOf?)
    Config.load text (.ofEnvironment environment) valueOf? =
      config.fault?.elim (.ok config) fun fault => .error (.invalid fault) := by
  intro config
  obtain ⟨written, held⟩ := Option.isSome_iff_exists.mp parses
  have sources := Config.ofSources_of_ofDocument? held
  -- The variables change none of the settings that are brought into a form before them.
  have whole : config = { written.normalize with
      generation := written.normalize.generation.override (.ofEnvironment environment) } := by
    have named := Generation.ofSources_eq_override environment
      ((text.bind valueOf?).bind (Value.part? (0, "generation")))
    rw [← sources]
    exact congrArg (fun generation => { config with generation }) named
  unfold Config.load
  rw [held]
  dsimp only
  rw [← whole]
  cases config.fault? <;> rfl

/-! ## What is loaded -/

section Loading

variable {valueOf? : Toml.DocumentReader} {disk : Files.Disk} {directory : String}
  {text : Option String} {document : Option Value} {environment : String → Option String}

/-- From the disk, too, the sources are put together and checked. -/
theorem loadFrom_eq_of_read (read : readDocument disk directory = .ok text)
    (parses : (Config.ofDocument? text valueOf?).isSome = true) :
    let config := Config.ofSources environment (text.bind valueOf?)
    Config.loadFrom disk directory (.ofEnvironment environment) valueOf? =
      config.fault?.elim (.ok config) fun fault => .error (.invalid fault) := by
  rw [Config.loadFrom, read]
  exact load_eq parses environment

/-- A configuration is loaded exactly if it is that of the sources and has no fault. -/
theorem loadFrom_eq_ok_iff (read : readDocument disk directory = .ok text)
    (parses : (Config.ofDocument? text valueOf?).isSome = true) {loaded : Config} :
    Config.loadFrom disk directory (.ofEnvironment environment) valueOf? = .ok loaded ↔
      loaded = Config.ofSources environment (text.bind valueOf?) ∧
        (Config.ofSources environment (text.bind valueOf?)).fault? = none := by
  rw [loadFrom_eq_of_read read parses]
  cases (Config.ofSources environment (text.bind valueOf?)).fault? with
  | none => simp [eq_comm]
  | some fault => simp

/-- Loading tells of a fault exactly if the configuration of the sources has it. -/
theorem loadFrom_eq_invalid_iff (read : readDocument disk directory = .ok text)
    (parses : (Config.ofDocument? text valueOf?).isSome = true) {fault : Fault} :
    Config.loadFrom disk directory (.ofEnvironment environment) valueOf? = .error (.invalid fault) ↔
      (Config.ofSources environment (text.bind valueOf?)).fault? = some fault := by
  rw [loadFrom_eq_of_read read parses]
  cases (Config.ofSources environment (text.bind valueOf?)).fault? with
  | none => simp
  | some fault => simp

/-- A variable without a value to speak of is enough for a fault, whatever the document holds. -/
theorem fault?_of_empty_variable (environment : String → Option String)
    (document : Option Value) :
    (Config.ofSources (Function.update environment "R4MVC_HELPERS_PREFIX" (some ""))
      document).fault? = some (.notAnIdentifier "helpers_prefix" "") := by
  have empty : (Config.ofSources (Function.update environment "R4MVC_HELPERS_PREFIX" (some ""))
      document).generation.helpersPrefix = "" := by
    simp only [Config.ofSources, Generation.ofSources, Function.update_self, Option.some_or,
      Option.getD_some]
  rw [Config.fault?, Generation.fault?, empty]
  rfl

/-- Some environment leaves a document without fault exactly if the suffix of controllers in it, on
which no variable has an influence, is an identifier. -/
theorem exists_fault?_eq_none_iff :
    (∃ other, (Config.ofSources other document).fault? = none) ↔
      Naming.isIdentifier (Config.ofSources environment document).generation.controllerSuffix =
        true := by
  constructor
  · rintro ⟨other, valid⟩
    exact (Generation.fault?_eq_none_iff.mp valid).2.2.1
  · intro suffix
    -- The defaults of the four other settings are without fault.
    let defaults : String → Option String := fun name =>
      [("R4MVC_HELPERS_PREFIX", "MVC"), ("R4MVC_NAMESPACE", ""), ("R4MVC_LINKS_CLASS", "Links"),
        ("R4MVC_OUTPUT_FILE", "R4Mvc.generated.cs")].lookup name
    refine ⟨defaults, Generation.fault?_eq_none_iff.mpr ⟨?_, ?_, suffix, ?_, ?_, ?_⟩⟩
    · show Naming.isIdentifier "MVC" = true
      decide +kernel
    · show Naming.isIdentifier "Links" = true
      decide +kernel
    · show Naming.isNamespace "" = true
      decide +kernel
    · show "MVC" ≠ "Links"
      decide
    · show Unicode.trim "R4Mvc.generated.cs" ≠ ""
      decide +kernel

end Loading

/-- With a document in which its reader finds a configuration, or without one, each setting comes
from the first source that has it: for four of them a variable of the environment, for all of them
the document, and the defaults. The extensions are those listed, each in the form in which they are
compared, and putting them in it again changes nothing. The configuration is loaded if it has no
fault, and the fault is told else. A variable can break any document, and repair each whose suffix
of controllers is an identifier. -/
theorem loadFrom_ofSources (valueOf? : Toml.DocumentReader) {disk : Files.Disk}
    {directory : String} {text : Option String} (read : readDocument disk directory = .ok text)
    (parses : (Config.ofDocument? text valueOf?).isSome = true)
    (environment : String → Option String) :
    let document := text.bind valueOf?
    let config := Config.ofSources environment document
    let load := fun environment =>
      Config.loadFrom disk directory (.ofEnvironment environment) valueOf?
    (∀ loaded, load environment = .ok loaded ↔ loaded = config ∧ config.fault? = none) ∧
    (∀ fault, load environment = .error (.invalid fault) ↔ config.fault? = some fault) ∧
    (∀ other, let config' := Config.ofSources other document
      config'.generation.controllerSuffix = config.generation.controllerSuffix ∧
        config'.analysis = config.analysis ∧ config'.locators = config.locators) ∧
    (∀ normalized, IsNormalized (listedExtensions (document.bind (Value.part? (2, "locators"))))
      normalized ↔ normalized = config.locators.viewExtensions) ∧
    normalizeExtensions config.locators.viewExtensions = config.locators.viewExtensions ∧
    (∃ value fault, load (Function.update environment "R4MVC_HELPERS_PREFIX" (some value)) =
      .error (.invalid fault)) ∧
    ((∃ other loaded, load other = .ok loaded) ↔
      Naming.isIdentifier config.generation.controllerSuffix = true) := by
  intro document config load
  refine ⟨fun loaded => loadFrom_eq_ok_iff read parses,
    fun fault => loadFrom_eq_invalid_iff read parses, fun other => ⟨rfl, rfl, rfl⟩,
    fun normalized => isNormalized_iff, normalizeExtensions_idem _,
    ⟨"", .notAnIdentifier "helpers_prefix" "", ?_⟩, ?_⟩
  · exact (loadFrom_eq_invalid_iff read parses).mpr (fault?_of_empty_variable environment document)
  · rw [← exists_fault?_eq_none_iff]
    refine exists_congr fun other => ?_
    constructor
    · rintro ⟨loaded, isLoaded⟩
      exact ((loadFrom_eq_ok_iff read parses).mp isLoaded).2
    · intro valid
      exact ⟨_, (loadFrom_eq_ok_iff read parses).mpr ⟨rfl, valid⟩⟩

/-- A document with a name that is no identifier is repaired by a variable. -/
theorem loadFrom_ofSources_repaired :
    let document := "[generation]\nhelpers_prefix = \"my-mvc\"\n" ++
      "[locators]\nview_extensions = [\"..VB\", \".\"]\n"
    let disk : Files.Disk :=
      ⟨.directory [("app", .directory [("r4mvc.toml", .file document.toUTF8)])], []⟩
    let named : String → Option String := fun name => [("R4MVC_HELPERS_PREFIX", "T4")].lookup name
    readDocument disk "/app" = .ok (some document) ∧
      (Config.ofDocument? (some document)).isSome = true ∧
      Config.loadFrom disk "/app" (.ofEnvironment fun _ => none) =
        .error (.invalid (.notAnIdentifier "helpers_prefix" "my-mvc")) ∧
      Config.loadFrom disk "/app" (.ofEnvironment named) =
        .ok { generation := { helpersPrefix := "T4" }
              locators := { viewExtensions := ["vb"] } } := by
  intro document disk named
  have read : readDocument disk "/app" = .ok (some document) := by decide +kernel
  have parses : (Config.ofDocument? (some document)).isSome = true := by decide +kernel
  have alone := loadFrom_ofSources Toml.document? read parses fun _ => none
  have withName := loadFrom_ofSources Toml.document? read parses named
  exact ⟨read, parses, (alone.2.1 _).mpr (by decide +kernel),
    (withName.1 _).mpr ⟨by decide +kernel, by decide +kernel⟩⟩

end TypedMvc.Settings
