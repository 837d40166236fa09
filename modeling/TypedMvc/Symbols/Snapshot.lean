import TypedMvc.CSharp.Parse
import TypedMvc.Symbols.Diagnostic
import TypedMvc.Symbols.Extract

/-!
# The declarations of a project

All declared types of the project in the order of its files, with the reports of wrong syntax, and
how a simple name is resolved to one of them.
-/

namespace TypedMvc.Symbols

open CSharp

/-- A source file of the project. -/
structure SourceFile where
  /-- The path from the root of the project. -/
  path : String
  /-- The text. -/
  text : String
  deriving Repr, DecidableEq, Inhabited

/-- The types declared in a project and the reports of wrong syntax. -/
structure Snapshot where
  /-- The declarations in order. -/
  types : List TypeSymbol
  /-- The reports in order. -/
  diagnostics : List Diagnostic
  deriving Repr, DecidableEq, Inhabited

namespace Snapshot

/-- The types and reports of one file, by the tree of its text. -/
def ofFile (file : SourceFile) (parser : Parser := parse) : Snapshot :=
  let source := Source.ofString file.text
  let root := parser source
  ⟨FileContext.typesIn ⟨file.path, source⟩ root, diagnosticsIn file.path root⟩

/-- The types and reports of all files. -/
def ofFiles (files : List SourceFile) (parser : Parser := parse) : Snapshot :=
  let parts := files.map fun file => ofFile file parser
  ⟨parts.flatMap (·.types), parts.flatMap (·.diagnostics)⟩

/-- The declaration that a simple name stands for in a namespace: the first one in that namespace,
or else the first one at all. -/
def resolve (snapshot : Snapshot) (name : String) (scope : Option String) : Option TypeSymbol :=
  let candidates := snapshot.types.filter fun t => t.name == name
  (candidates.find? fun t => t.namespaceName == scope).or candidates.head?

end Snapshot

end TypedMvc.Symbols
