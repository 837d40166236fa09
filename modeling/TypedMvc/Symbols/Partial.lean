import TypedMvc.Files.Path
import TypedMvc.Symbols.Type

/-!
# Parts of one type

A type may be declared in several parts. They are put together under the qualified name, in the
place of the first one.
-/

namespace TypedMvc.Symbols

/-- The elements of a list behind those of another one that lacks them, each once. -/
def union (known : List String) : List String → List String
  | [] => known
  | name :: rest => union (if name ∈ known then known else known ++ [name]) rest

/-- A type with all its parts put together. -/
structure MergedType where
  /-- The type: modifiers, attributes, bases and methods from all parts, the rest from the first. -/
  type : TypeSymbol
  /-- The files of the parts in order, each once. -/
  files : List String
  deriving Repr, DecidableEq, Inhabited

/-- A type with its first part. -/
def MergedType.ofPart (part : TypeSymbol) : MergedType := ⟨part, [part.file]⟩

/-- A type with one more part. -/
def MergedType.addPart (merged : MergedType) (part : TypeSymbol) : MergedType :=
  { type :=
      { merged.type with
        modifiers := union merged.type.modifiers part.modifiers
        attributes := union merged.type.attributes part.attributes
        baseTypes := union merged.type.baseTypes part.baseTypes
        methods := merged.type.methods ++ part.methods }
    files :=
      if merged.files.any (Files.Path.same part.file) then merged.files
      else merged.files ++ [part.file] }

/-- Adds a part to the type of its qualified name, which is put last if it is not there. -/
def insertPart (part : TypeSymbol) : List MergedType → List MergedType
  | [] => [.ofPart part]
  | merged :: rest =>
    if merged.type.qualifiedName = part.qualifiedName then merged.addPart part :: rest
    else merged :: insertPart part rest

/-- The types of a list of declarations, in order of first declaration. -/
def mergeParts (parts : List TypeSymbol) : List MergedType :=
  parts.foldl (fun merged part => insertPart part merged) []

end TypedMvc.Symbols
