import TypedMvc.Files.Path

/-!
# Files and directories

A tree of files and directories, and what the paths of a program name in it. A path is followed
step by step from the root or from the working directory, and each step needs a directory to start
from.
-/

namespace TypedMvc.Files

/-- A file or a directory. -/
inductive Entry where
  /-- A file with its bytes. -/
  | file (content : ByteArray)
  /-- A directory with its entries. -/
  | directory (entries : List (String × Entry))
  deriving Inhabited

namespace Entry

/-- Whether the entry is a directory. -/
def isDirectory : Entry → Bool
  | .directory _ => true
  | .file _ => false

/-- The entries of a directory; none for a file. -/
def entries : Entry → List (String × Entry)
  | .directory entries => entries
  | .file _ => []

/-- The entry of a directory with a name. -/
def child? (entry : Entry) (name : String) : Option Entry := entry.entries.lookup name

/-- What lies below an entry by the names on the way. -/
def at? (entry : Entry) : List String → Option Entry
  | [] => some entry
  | name :: rest => (entry.child? name).bind fun child => child.at? rest

/-- The entries of a directory with one set; a new one is put last. -/
def setEntry (name : String) (entry : Entry) : List (String × Entry) → List (String × Entry)
  | [] => [(name, entry)]
  | (other, known) :: rest =>
    if other = name then (other, entry) :: rest else (other, known) :: setEntry name entry rest

/-- The tree with an entry set below it by the names on the way. Nothing is set where a directory
on the way is missing. -/
def put (target : Entry) : (path : List String) → Entry → Entry
  | [], _ => target
  | _ :: _, .file content => .file content
  | [name], .directory entries => .directory (setEntry name target entries)
  | name :: next :: rest, .directory entries =>
    match entries.lookup name with
    | some child => .directory (setEntry name (put target (next :: rest) child) entries)
    | none => .directory entries

end Entry

/-- All files, and where a program is among them. -/
structure Disk where
  /-- The directory that everything is in. -/
  root : Entry
  /-- The names from there to the working directory. -/
  workingDirectory : List String
  deriving Inhabited

namespace Disk

/-- Follows one step from a directory. -/
def follow? (root : Entry) (here : List String) (piece : String) : Option (List String) :=
  match root.at? here with
  | some (.directory entries) =>
    if piece = "" ∨ piece = "." then some here
    else if piece = ".." then some here.dropLast
    else if (entries.lookup piece).isSome then some (here ++ [piece])
    else none
  | _ => none

/-- Where a path starts. -/
def start (disk : Disk) (path : String) : List String :=
  if Path.isAbsolute path then [] else disk.workingDirectory

/-- The names from the root to what a path names, if there is anything. -/
def locate? (disk : Disk) (path : String) : Option (List String) :=
  if path = "" then none
  else (Text.pieces '/' path).foldlM (follow? disk.root) (disk.start path)

/-- What a path names. -/
def entry? (disk : Disk) (path : String) : Option Entry :=
  (disk.locate? path).bind disk.root.at?

/-- Whether a path names a directory. -/
def isDirectory (disk : Disk) (path : String) : Bool :=
  (disk.entry? path).any Entry.isDirectory

/-- Whether a path names a file. -/
def isFile (disk : Disk) (path : String) : Bool :=
  (disk.entry? path).any fun entry => !entry.isDirectory

/-- The bytes of the file that a path names. -/
def read? (disk : Disk) (path : String) : Option ByteArray :=
  match disk.entry? path with
  | some (.file content) => some content
  | _ => none

end Disk

/-! ## Writing -/

/-- Why a file or a directory cannot be made. -/
inductive Obstacle where
  /-- Something on the way is missing. -/
  | missing
  /-- Something else has the name. -/
  | taken
  /-- Something on the way is no directory. -/
  | notADirectory
  /-- A directory has the name, or is asked for. -/
  | isADirectory
  /-- The system does not do it, for a reason that it tells. -/
  | system (message : String)
  deriving Repr, DecidableEq, Inhabited

/-- The message for an obstacle. -/
def Obstacle.message : Obstacle → String
  | .missing => "No such file or directory (os error 2)"
  | .taken => "File exists (os error 17)"
  | .notADirectory => "Not a directory (os error 20)"
  | .isADirectory => "Is a directory (os error 21)"
  | .system message => message

/-- What the system does with a file that nothing stands in the way of. -/
inductive Writing where
  /-- All bytes are written. -/
  | completes
  /-- The file is not opened. -/
  | refuses (message : String)
  /-- The file is opened and emptied, and no more than some of the bytes are written. -/
  | breaksOff (count : Nat) (message : String)
  deriving Repr, DecidableEq, Inhabited

/-- What the system does at each place, where nothing stands in the way. A name can be too long, a
disk full, or a place not permitted. -/
structure System where
  /-- Why a directory is not made, if it is not. -/
  directory : List String → Option String
  /-- What comes of writing a file. -/
  file : List String → Writing

/-- A system that does all it is asked for. -/
def System.willing : System := ⟨fun _ => none, fun _ => .completes⟩

/-- Follows steps from a directory and makes the directories that are missing. Gives the tree as
it is then, and what stands in the way if anything does. `made` tells whether a directory has been
made already. -/
def makeAlong (system : System) (root : Entry) (here : List String) (made : Bool) :
    List String → Entry × Option Obstacle
  | [] => (root, none)
  | piece :: rest =>
    if piece = "" ∨ piece = "." then makeAlong system root here made rest
    else if piece = ".." then makeAlong system root here.dropLast made rest
    else
      let next := here ++ [piece]
      match root.at? next with
      | some (.directory _) => makeAlong system root next made rest
      | some (.file _) =>
        -- The directory itself cannot be made where a file has its name, but a file on the way to
        -- it cannot be followed.
        (root, some (if rest.isEmpty || made then .taken else .notADirectory))
      | none =>
        match system.directory next with
        | some message => (root, some (.system message))
        | none => makeAlong system (Entry.put (.directory []) next root) next true rest

namespace Disk

/-- Makes a directory with all those above it that are missing. -/
def makeDirectories (disk : Disk) (path : String) (system : System := .willing) :
    Disk × Option Obstacle :=
  let (root, obstacle) :=
    makeAlong system disk.root (disk.start path) false (Text.pieces '/' path)
  ({ disk with root }, obstacle)

/-- Follows one step from a directory, or tells what stands in the way. -/
def follow (root : Entry) (here : List String) (piece : String) :
    Except Obstacle (List String) :=
  match follow? root here piece with
  | some next => .ok next
  | none => .error (if (root.at? here).any Entry.isDirectory then .missing else .notADirectory)

/-- The place of a file that is to be written into a directory that is there. -/
def filePlace (disk : Disk) (path : String) : Except Obstacle (List String) :=
  let pieces := Text.pieces '/' path
  let parts := (pieces.reverse.dropWhile (· = "")).reverse
  match parts.dropLast.foldlM (follow disk.root) (disk.start path), parts.getLast? with
  | .error obstacle, _ => .error obstacle
  | .ok _, none => .error .isADirectory
  | .ok here, some name =>
    -- A slash at the end asks for a directory, and so does a step that stays or goes up.
    if parts ≠ pieces ∨ name = "." ∨ name = ".." then
      .error (if (disk.root.at? here).any Entry.isDirectory then .isADirectory else .notADirectory)
    else
      match disk.root.at? here, disk.root.at? (here ++ [name]) with
      | some (.directory _), some (.directory _) => .error .isADirectory
      | some (.directory _), _ => .ok (here ++ [name])
      | _, _ => .error .notADirectory

/-- The files with one set at a place. -/
def setFile (disk : Disk) (place : List String) (content : ByteArray) : Disk :=
  { disk with root := Entry.put (.file content) place disk.root }

/-- Writes a file into a directory that is there. Gives the files as they are then, with what stood
in the way if anything did. -/
def writeFile (disk : Disk) (path : String) (content : ByteArray) (system : System := .willing) :
    Except (Obstacle × Disk) Disk :=
  match disk.filePlace path with
  | .error obstacle => .error (obstacle, disk)
  | .ok place =>
    match system.file place with
    | .completes => .ok (disk.setFile place content)
    | .refuses message => .error (.system message, disk)
    | .breaksOff count message =>
      .error (.system message, disk.setFile place (content.extract 0 count))

end Disk

end TypedMvc.Files
