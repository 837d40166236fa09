import TypedMvc.Text.Pieces

/-!
# Paths

A path is kept as it was spelled; what it names is decided by its components. Repeated slashes, a
slash at the end, and a `.` anywhere but in front of a relative path do not count. Two spellings
with the same components are the same path.
-/

namespace TypedMvc.Files

/-- One step of a path. -/
inductive Component where
  /-- The root of all files. -/
  | root
  /-- The directory itself, in front of a relative path. -/
  | here
  /-- The directory above. -/
  | up
  /-- An entry of the directory. -/
  | entry (name : String)
  deriving Repr, DecidableEq, Inhabited

/-- A step as it is written. -/
def Component.text : Component → String
  | .root => "/"
  | .here => "."
  | .up => ".."
  | .entry name => name

namespace Path

/-- Whether a path starts at the root. -/
def isAbsolute (path : String) : Bool := path.toList.head? == some '/'

/-- The step that a piece between two slashes stands for. -/
def componentOf? (piece : String) : Option Component :=
  if piece = "" ∨ piece = "." then none
  else if piece = ".." then some .up
  else some (.entry piece)

/-- The steps of a path. -/
def components (path : String) : List Component :=
  let pieces := Text.pieces '/' path
  let front :=
    if isAbsolute path then [Component.root]
    else if pieces.head? = some "." then [Component.here]
    else []
  front ++ pieces.filterMap componentOf?

/-- Whether two spellings name the same path. -/
def same (a b : String) : Bool := components a == components b

/-- A path below another one. An absolute second path stands for itself. -/
def join (base path : String) : String :=
  if isAbsolute path ∨ base = "" then path
  else if base.toList.getLast? = some '/' then base ++ path
  else base ++ "/" ++ path

/-- Whether a piece of a path counts as a step, the first piece of a relative path being `.` if
anything. -/
def counts (piece : String) (isFirst : Bool) : Bool :=
  piece ≠ "" && (piece ≠ "." || isFirst)

/-- The pieces of a path, last first, without those at the end that do not count. -/
def trimEnd : List String → List String
  | [] => []
  | piece :: rest => if counts piece rest.isEmpty then piece :: rest else trimEnd rest

/-- The path without its last step; none for the root and the empty path. -/
def parent? (path : String) : Option String :=
  match trimEnd (Text.pieces '/' path).reverse with
  | [] => none
  | _ :: rest =>
    match trimEnd rest with
    | [] => some (if isAbsolute path then "/" else "")
    | above => some (Text.join "/" above.reverse)

/-- The name of the entry that a path ends with. -/
def fileName? (path : String) : Option String :=
  match (components path).getLast? with
  | some (.entry name) => some name
  | _ => none

/-- A file name cut at its last dot into stem and extension. A name without a dot, or with one in
front only, has no extension. -/
def splitExtension (name : String) : String × Option String :=
  let chars := name.toList
  let extension := Text.afterLast '.' chars
  if extension.length + 1 < chars.length then
    (String.ofList (chars.take (chars.length - extension.length - 1)),
      some (String.ofList extension))
  else (name, none)

/-- The extension of a file name. -/
def extension? (name : String) : Option String := (splitExtension name).2

/-- A file name without its extension. -/
def stem (name : String) : String := (splitExtension name).1

end Path

end TypedMvc.Files
