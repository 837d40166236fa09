import TypedMvc.Naming.Identifier
import TypedMvc.Settings.Config
import TypedMvc.Text.Quoted
import TypedMvc.Unicode.WhiteSpace

/-!
# Valid configurations

A configuration is refused if the code generated under it could not be compiled or would have
nowhere to go. The first fault counts.
-/

namespace TypedMvc.Settings

open Naming

/-- What is wrong with a configuration. -/
inductive Fault where
  /-- A setting has to be an identifier. -/
  | notAnIdentifier (key value : String)
  /-- The namespace is no dotted name. -/
  | notANamespace (value : String)
  /-- The two generated classes have the same name. -/
  | sameName (value : String)
  /-- The output file has no name. -/
  | noOutputFile
  deriving Repr, DecidableEq, Inhabited

/-- The message for a fault. -/
def Fault.message : Fault → String
  | .notAnIdentifier key value =>
    "generation." ++ key ++ " must be a C# identifier, got " ++ Text.quoted value
  | .notANamespace value =>
    "generation.namespace must be empty or a dotted C# name, got " ++ Text.quoted value
  | .sameName value =>
    "generation.helpers_prefix and generation.links_class must differ (both " ++
      Text.quoted value ++ ")"
  | .noOutputFile => "generation.output_file must not be empty"

/-- The first fault of the settings, if there is one. -/
def Generation.fault? (settings : Generation) : Option Fault :=
  if !isIdentifier settings.helpersPrefix then
    some (.notAnIdentifier "helpers_prefix" settings.helpersPrefix)
  else if !isIdentifier settings.linksClass then
    some (.notAnIdentifier "links_class" settings.linksClass)
  else if !isIdentifier settings.controllerSuffix then
    some (.notAnIdentifier "controller_suffix" settings.controllerSuffix)
  else if !isNamespace settings.namespaceName then some (.notANamespace settings.namespaceName)
  else if settings.helpersPrefix = settings.linksClass then some (.sameName settings.helpersPrefix)
  else if Unicode.trim settings.outputFile = "" then some .noOutputFile
  else none

/-- There is no first fault if the first check finds none and the others find none. -/
theorem check_eq_none_iff {p : Prop} [Decidable p] {fault : Fault} {rest : Option Fault} :
    (if p then some fault else rest) = none ↔ ¬ p ∧ rest = none := by
  by_cases found : p
  · simp [found]
  · simp [found]

/-- Settings are without fault if the names in them can be used, the two classes are told apart and
the output file has a name. -/
theorem Generation.fault?_eq_none_iff {settings : Generation} :
    settings.fault? = none ↔
      isIdentifier settings.helpersPrefix = true ∧ isIdentifier settings.linksClass = true ∧
        isIdentifier settings.controllerSuffix = true ∧
        isNamespace settings.namespaceName = true ∧
        settings.helpersPrefix ≠ settings.linksClass ∧
        Unicode.trim settings.outputFile ≠ "" := by
  unfold fault?
  rw [check_eq_none_iff, check_eq_none_iff, check_eq_none_iff, check_eq_none_iff,
    check_eq_none_iff, check_eq_none_iff]
  simp

/-- The first fault of the configuration, if there is one. -/
def Config.fault? (config : Config) : Option Fault := config.generation.fault?

/-- Whether the configuration can be used. -/
def Config.isValid (config : Config) : Bool := config.fault?.isNone

end TypedMvc.Settings
