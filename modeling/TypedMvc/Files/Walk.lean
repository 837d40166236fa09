import TypedMvc.Files.Tree

/-!
# Walking a tree of files

The files below a directory that can be reached through entries that are let in. Hidden entries,
those with a dot in front of the name, are usually not. Which files of a project a walk comes to
can also be up to others (`Walker`).
-/

namespace TypedMvc.Files

/-- A file that was found: the names from where the walk started, and the bytes. -/
structure Found where
  /-- The names on the way, the file's own last. -/
  path : List String
  /-- The bytes of the file. -/
  content : ByteArray
  deriving Inhabited

/-- The path of a found file from where the walk started. -/
def Found.relativePath (found : Found) : String := Text.join "/" found.path

/-- The name of a found file. -/
def Found.name (found : Found) : String := found.path.getLastD ""

/-- A walk below a place of a tree: the names from the place to each entry that is come to, in the
order of the walk. -/
abbrev Walker := Entry → List String → List (List String)

/-- The file that names lead to from a place, if they lead to one. -/
def foundAt? (root : Entry) (here path : List String) : Option Found :=
  match root.at? (here ++ path) with
  | some (.file content) => some ⟨path, content⟩
  | _ => none

/-- The files that a walk comes to. -/
def Walker.files (walk : Walker) (root : Entry) (here : List String) : List Found :=
  (walk root here).filterMap (foundAt? root here)

/-- Whether a name is that of a hidden entry. -/
def isHidden (name : String) : Bool := name.toList.head? == some '.'

mutual
/-- The files at or below an entry. `enter` says, from what is known above an entry, whether it
is let in and what is known below it. -/
def filesAt {σ : Type} (enter : σ → String → Entry → Option σ) (known : σ)
    (path : List String) : Entry → List Found
  | .file content => [⟨path, content⟩]
  | .directory entries => filesAmong enter known path entries

/-- The files at or below the entries of a directory that are let in. -/
def filesAmong {σ : Type} (enter : σ → String → Entry → Option σ) (known : σ)
    (path : List String) : List (String × Entry) → List Found
  | [] => []
  | (name, entry) :: rest =>
    (match enter known name entry with
      | some below => filesAt enter below (path ++ [name]) entry
      | none => []) ++ filesAmong enter known path rest
end

/-- The files below a directory that no hidden entry leads to. -/
def visibleFiles (directory : Entry) : List Found :=
  filesAmong (fun _ name _ => if isHidden name then none else some ()) () [] directory.entries

end TypedMvc.Files
