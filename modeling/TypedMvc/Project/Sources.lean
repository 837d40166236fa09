import TypedMvc.Files.Ignore
import TypedMvc.Symbols.Snapshot

/-!
# The sources of a project

The source files below the project's directory, in the order of their paths. Files that match an
excluded pattern are left out, and so is the generated file of an earlier run, however its path is
spelled.
-/

namespace TypedMvc.Project

open Files Symbols

/-- Why the sources cannot be read. -/
structure MalformedInput where
  /-- The path at fault. -/
  path : String
  /-- What is wrong. -/
  reason : String
  deriving Repr, DecidableEq, Inhabited

/-- The message for sources that cannot be read. -/
def MalformedInput.message (malformed : MalformedInput) : String :=
  "malformed input " ++ malformed.path ++ ": " ++ malformed.reason

/-- Reads the excluded patterns. The first faulty one counts. -/
def readPatterns (readPattern : PatternReader) (directory : String) (patterns : List String) :
    Except MalformedInput (List (String → Bool)) :=
  patterns.mapM fun pattern =>
    match readPattern pattern with
    | .ok isMatch => .ok isMatch
    | .error fault =>
      .error ⟨directory, "invalid glob " ++ Text.quoted pattern ++ ": " ++ fault⟩

/-- Whether a found file is a source that is read. `output` is where the generated file is. -/
def isSource (here : List String) (output : Option (List String)) (exclude : List (String → Bool))
    (found : Found) : Bool :=
  Path.extension? found.name == some "cs" && output != some (here ++ found.path) &&
    !exclude.any fun isMatch => isMatch found.relativePath

/-- The text of a source without the byte order mark in front. -/
def withoutMark (text : String) : String :=
  match text.toList with
  | '\ufeff' :: rest => String.ofList rest
  | _ => text

/-- The source in a found file. -/
def readSource (directory : String) (found : Found) : Except MalformedInput SourceFile :=
  match String.fromUTF8? found.content with
  | some text => .ok ⟨found.relativePath, withoutMark text⟩
  | none => .error ⟨Path.join directory found.relativePath, "not valid UTF-8"⟩

/-- Whether one list of names is in front of another, or the same: the first names that differ
decide, and the beginning of a list is in front of the list. -/
def namesLe : List String → List String → Bool
  | [], _ => true
  | _ :: _, [] => false
  | a :: restA, b :: restB => decide (a < b) || a == b && namesLe restA restB

/-- Whether one path comes before another, step by step. -/
def pathLe (a b : Found) : Bool := namesLe a.path b.path

/-- The sources of the project in a directory, among the files that the walk comes to. -/
def collectSources (disk : Disk) (directory : String) (exclude : List String)
    (outputFile : String) (walk : Walker := ruledWalk) (readPattern : PatternReader := Glob.read) :
    Except MalformedInput (List SourceFile) := do
  let patterns ← readPatterns readPattern directory exclude
  -- Where the output path leads, so that no spelling of it hides the generated file.
  let output := disk.locate? (Path.join directory outputFile)
  match disk.locate? directory with
  | none => return []
  | some here =>
    let files := Walker.files walk disk.root here
    let sources := (files.filter (isSource here output patterns)).mergeSort pathLe
    sources.mapM (readSource directory)

end TypedMvc.Project
