import TypedMvc.Declaration.Literal
import TypedMvc.Declaration.Node
import TypedMvc.Text.Pieces

/-!
# Declarations as source text

The source text of a tree of declarations, line by line. Each line knows how deep it is indented,
so a declaration looks the same at every depth. Classes and namespaces are set apart from their
neighbours by blank lines. The text depends on the tree alone.
-/

namespace TypedMvc.Declaration

/-- A line of source text. -/
structure Line where
  /-- How many steps the line is indented. -/
  depth : Nat
  /-- What stands on the line; nothing for a blank one. -/
  text : String
  deriving Repr, DecidableEq, Inhabited

/-- A blank line. -/
def Line.blank : Line := ⟨0, ""⟩

/-- One step of indentation. -/
def indentation : List Char := [' ', ' ', ' ', ' ']

/-- The characters of a line with its end. -/
def Line.chars (line : Line) : List Char :=
  (List.replicate line.depth indentation).flatten ++ line.text.toList ++ ['\n']

/-- An expression as source text. -/
def Expr.render : Expr → String
  | .text value => literal value
  | .create type => "new " ++ type ++ "()"
  | .member name => name

/-- An attribute as source text, without brackets. -/
def Attribute.render (a : Attribute) : String :=
  if a.arguments.isEmpty then a.name
  else a.name ++ "(" ++ Text.join ", " (a.arguments.map Expr.render) ++ ")"

/-- Modifiers as source text, each with a blank behind it. -/
def renderModifiers : List Modifier → String
  | [] => ""
  | m :: rest => m.keyword ++ " " ++ renderModifiers rest

/-- The line of the attributes of a declaration, if it has any. -/
def attributeLines (depth : Nat) (attributes : List Attribute) : List Line :=
  if attributes.isEmpty then []
  else [⟨depth, "[" ++ Text.join ", " (attributes.map Attribute.render) ++ "]"⟩]

/-- Whether a declaration is set apart from its neighbours. -/
def Kind.standsApart : Kind → Bool
  | .namespaceKind | .classKind => true
  | .fieldKind | .propertyKind => false

/-- The blank line between a declaration and the one before it, if there has to be one. -/
def separation (previous : Option Kind) (kind : Kind) : List Line :=
  match previous with
  | some before => if kind.standsApart || before.standsApart then [.blank] else []
  | none => []

mutual
/-- The lines of a declaration. -/
def linesOf (depth : Nat) : Node → List Line
  | .mk content name modifiers attributes children =>
    attributeLines depth attributes ++
      match content with
      | .ofNamespace =>
        if name = "" then linesOfAll depth none children
        else
          ⟨depth, "namespace " ++ name⟩ :: ⟨depth, "\x7b"⟩ ::
            (linesOfAll (depth + 1) none children ++ [⟨depth, "\x7d"⟩])
      | .ofClass =>
        ⟨depth, renderModifiers modifiers ++ "class " ++ name⟩ :: ⟨depth, "\x7b"⟩ ::
          (linesOfAll (depth + 1) none children ++ [⟨depth, "\x7d"⟩])
      | .ofField type value =>
        [⟨depth, renderModifiers modifiers ++ type ++ " " ++ name ++ " = " ++ value.render ++ ";"⟩]
      | .ofProperty type getter =>
        [⟨depth, renderModifiers modifiers ++ type ++ " " ++ name ++
          " \x7b get \x7b return " ++ getter.render ++ "; \x7d \x7d"⟩]

/-- The lines of declarations one after another, behind one of a certain kind. -/
def linesOfAll (depth : Nat) (previous : Option Kind) : List Node → List Line
  | [] => []
  | node :: rest =>
    separation previous node.kind ++ linesOf depth node ++
      linesOfAll depth (some node.kind) rest
end

/-- The name of the program that generates the text. -/
def generatorName : String := "R4Mvc"

/-- The version of the program that generates the text. -/
def generatorVersion : String := "0.1.0"

/-- The warnings that are switched off in the text: missing comments, compliance, and members that
hide others. -/
def suppressedWarnings : String := "1591, 3008, 3009, 0108"

/-- The lines in front of the usings. -/
def headerLines : List Line :=
  [⟨0, "// <auto-generated />"⟩,
    ⟨0, "// This file was generated by " ++ generatorName ++ " " ++ generatorVersion ++
      ". Changes will be lost on regeneration."⟩,
    .blank, ⟨0, "#pragma warning disable " ++ suppressedWarnings⟩, .blank]

/-- The lines behind the declarations. -/
def footerLines : List Line := [.blank, ⟨0, "#pragma warning restore " ++ suppressedWarnings⟩]

/-- The lines of the usings with a blank one behind them, if there are any. -/
def usingLines (usings : List String) : List Line :=
  if usings.isEmpty then []
  else (usings.map fun name => ⟨0, "using " ++ name ++ ";"⟩) ++ [.blank]

/-- The lines of a whole source text. -/
def CompilationUnit.lines (unit : CompilationUnit) : List Line :=
  headerLines ++ usingLines unit.usings ++ linesOfAll 0 none unit.members ++ footerLines

/-- The source text of a tree of declarations. -/
def CompilationUnit.render (unit : CompilationUnit) : String :=
  String.ofList (unit.lines.flatMap Line.chars)

end TypedMvc.Declaration
