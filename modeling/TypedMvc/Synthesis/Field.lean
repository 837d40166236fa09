import TypedMvc.Declaration.Render
import TypedMvc.Naming.Identifier

/-!
# Fields that hold texts

Generated classes have a field for each name of some list, and the field holds a text. Names that
become the same identifier share the field of the first one, and some identifiers are taken
already.
-/

namespace TypedMvc.Synthesis

open Declaration Naming

/-- How a generated field is bound to its value. -/
inductive Binding where
  /-- When the program runs. -/
  | readOnly
  /-- When the program is compiled. -/
  | constant
  deriving Repr, DecidableEq, Inhabited

/-- The modifiers of a field that is bound in a certain way. -/
def Binding.modifiers : Binding → List Modifier
  | .readOnly => [.publicModifier, .readOnlyModifier]
  | .constant => [.publicModifier, .constModifier]

/-- The pairs of name and text that get a field, with the identifier in place of the name. The
first pair of an identifier counts, and none whose identifier is taken. -/
def firstByIdentifier (taken : List String) : List (String × String) → List (String × String)
  | [] => []
  | (name, value) :: rest =>
    let ident := memberIdentifier name
    if ident ∈ taken then firstByIdentifier taken rest
    else (ident, value) :: firstByIdentifier (ident :: taken) rest

/-- The fields for pairs of name and text, apart from identifiers that are reserved. -/
def uniqueTextFields (pairs : List (String × String)) (modifiers : List Modifier)
    (reserved : List String) : List Node :=
  (firstByIdentifier reserved pairs).map fun pair =>
    (Node.ofText pair.1 pair.2).withModifiers modifiers

/-- The fields for pairs of name and text. -/
def textFields (pairs : List (String × String)) (binding : Binding) : List Node :=
  uniqueTextFields pairs binding.modifiers []

/-- The attributes of every generated class. -/
def generatedAttributes : List Attribute := [
  { name := "GeneratedCode"
    arguments := [.text generatorName, .text generatorVersion] },
  { name := "DebuggerNonUserCode" }]

/-- A generated class. -/
def generatedClass (name : String) : Node :=
  ((Node.ofClass name).withModifiers [.publicModifier]).withAttributes generatedAttributes

/-- A generated class with a field for each pair of name and text. No field is called like the
class. -/
def textMembersClass (className : String) (pairs : List (String × String))
    (binding : Binding) : Node :=
  (generatedClass className).withChildren
    (uniqueTextFields pairs binding.modifiers [className])

end TypedMvc.Synthesis
