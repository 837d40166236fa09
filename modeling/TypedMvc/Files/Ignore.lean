import TypedMvc.Files.GlobSyntax
import TypedMvc.Files.Walk
import TypedMvc.Unicode.WhiteSpace

/-!
# Rules for files to be ignored

A directory may hold lists of patterns of entries below it that are to be ignored. The last pattern
of a list that fits decides, and one with an exclamation mark lets an entry in. Lists nearer to an
entry come first, and those of all directories above it count, also of directories above the
project. Some lists only count inside a repository, which begins at a directory that holds its data.
Hidden entries are ignored unless a pattern lets them in. A list that a user keeps for all
repositories is not among the files of a tree and does not count here.
-/

namespace TypedMvc.Files

/-- A pattern for entries to be ignored. -/
structure IgnoreRule where
  /-- The pattern of the path from the directory with the list. -/
  glob : Glob
  /-- Whether entries that fit are let in. -/
  lets : Bool
  /-- Whether only directories fit. -/
  onlyDirectories : Bool
  deriving Inhabited

namespace IgnoreRule

/-- The text without the white space at its end, unless a backslash keeps the last blank. -/
def trimLine (text : List Char) : List Char :=
  if ['\\', ' '].isSuffixOf text then text
  else (text.reverse.dropWhile Unicode.isWhiteSpace).reverse

/-- The pattern of a path from the pattern of a line. A pattern without a slash fits in every
directory below, and one for everything in a directory does not fit the directory. -/
def anchor (anchored : Bool) (pattern : List Char) : List Char :=
  let everywhere := ['*', '*', '/']
  let pattern :=
    if anchored || pattern.contains '/' || everywhere.isPrefixOf pattern || pattern == ['*', '*']
    then pattern
    else everywhere ++ pattern
  if ['/', '*', '*'].isSuffixOf pattern then pattern ++ ['/', '*'] else pattern

/-- The rule in a line. Comments, empty lines and faulty patterns hold none. -/
def ofLine? (line : String) : Option IgnoreRule :=
  if line.toList.head? == some '#' then none
  else
    let text := trimLine line.toList
    if text.isEmpty then none
    else
      let escaped := ['\\', '!'].isPrefixOf text || ['\\', '#'].isPrefixOf text
      let lets := !escaped && text.head? == some '!'
      let text := if escaped || lets then text.drop 1 else text
      let anchored := text.head? == some '/'
      let text := if anchored && !escaped then text.drop 1 else text
      let onlyDirectories := text.getLast? == some '/'
      let text := if onlyDirectories then text.dropLast else text
      let text := if onlyDirectories && text.getLast? == some '\\' then text.dropLast else text
      match Glob.parse true (String.ofList (anchor anchored text)) with
      | .ok glob => some ⟨glob, lets, onlyDirectories⟩
      | .error _ => none

/-- Whether a rule fits an entry by its path from the directory with the list. -/
def fits (rule : IgnoreRule) (path : String) (isDirectory : Bool) : Bool :=
  (!rule.onlyDirectories || isDirectory) && rule.glob.isMatchByStep path

end IgnoreRule

/-- Whether a list of rules has an entry ignored or lets it in, if one of them fits. -/
def verdict (rules : List IgnoreRule) (path : String) (isDirectory : Bool) : Option Bool :=
  (rules.reverse.find? fun rule => rule.fits path isDirectory).map fun rule => !rule.lets

/-- The lines of a text. -/
def linesOf (text : String) : List String :=
  (Text.pieces '\n' text).map fun line =>
    if line.toList.getLast? == some '\r' then String.ofList line.toList.dropLast else line

/-- The text of a file in front of the first line that is no text. A byte order mark in front is
passed over. -/
def readableText (content : ByteArray) : String :=
  let text := match String.fromUTF8? content with
    | some text => text
    | none =>
      let lines : List (List UInt8) := content.toList.splitBy fun b _ => b != 10
      let texts := lines.map fun line => String.fromUTF8? (List.toByteArray line)
      Text.join "" ((texts.takeWhile Option.isSome).filterMap id)
  String.ofList (text.toList.dropWhile (· == '\ufeff'))

/-- The rules in a file of a directory. -/
def rulesIn (file : Option Entry) : List IgnoreRule :=
  match file with
  | some (.file content) => (linesOf (readableText content)).filterMap IgnoreRule.ofLine?
  | _ => []

/-- The rules that a directory holds for the entries below it. -/
structure DirectoryRules where
  /-- The rules that always count. -/
  general : List IgnoreRule
  /-- The rules that count inside a repository. -/
  tracked : List IgnoreRule
  /-- The rules of the repository itself. -/
  excluded : List IgnoreRule
  /-- Whether a repository begins here. -/
  isRepository : Bool
  deriving Inhabited

/-- The rules that a directory holds. -/
def DirectoryRules.ofDirectory (directory : Entry) : DirectoryRules :=
  { general := rulesIn (directory.child? ".ignore")
    tracked := rulesIn (directory.child? ".gitignore")
    excluded := rulesIn (directory.at? [".git", "info", "exclude"])
    isRepository := (directory.child? ".git").isSome }

/-- The directories around an entry, innermost first: the rules of each, and the names from there
to the directory of the entry. -/
abbrev Surroundings := List (DirectoryRules × List String)

namespace Surroundings

/-- The directories up to the first one in which a repository begins; none outside of one. -/
def repository : Surroundings → Surroundings
  | [] => []
  | (rules, path) :: outer =>
    if rules.isRepository then [(rules, path)]
    else
      match repository outer with
      | [] => []
      | inside => (rules, path) :: inside

/-- The verdict of the innermost directory that has one. -/
def judge (surroundings : Surroundings) (rulesOf : DirectoryRules → List IgnoreRule)
    (name : String) (isDirectory : Bool) : Option Bool :=
  surroundings.findSome? fun (rules, path) =>
    verdict (rulesOf rules) (Text.join "/" (path ++ [name])) isDirectory

/-- Whether an entry is ignored. -/
def ignores (surroundings : Surroundings) (name : String) (isDirectory : Bool) : Bool :=
  let inRepository := surroundings.repository
  ((surroundings.judge (·.general) name isDirectory).or
    ((inRepository.judge (·.tracked) name isDirectory).or
      (inRepository.judge (·.excluded) name isDirectory))).getD (isHidden name)

/-- The surroundings of the entries of a directory. -/
def enter (surroundings : Surroundings) (name : String) (directory : Entry) : Surroundings :=
  (DirectoryRules.ofDirectory directory, []) ::
    surroundings.map fun (rules, path) => (rules, path ++ [name])

/-- The surroundings of the entries of a directory further down, by the names on the way to it. -/
def below (surroundings : Surroundings) (directory : Entry) : List String → Surroundings
  | [] => surroundings
  | name :: rest =>
    match directory.child? name with
    | some child => (surroundings.enter name child).below child rest
    | none => surroundings

/-- The surroundings of the entries of the directory at a place of a tree. -/
def around (root : Entry) (here : List String) : Surroundings :=
  below [(DirectoryRules.ofDirectory root, [])] root here

end Surroundings

/-- The files below a directory that are not ignored. -/
def projectFiles (root : Entry) (here : List String) : List Found :=
  filesAmong (fun surroundings name entry =>
    if Surroundings.ignores surroundings name entry.isDirectory then none
    else some (Surroundings.enter surroundings name entry))
    (Surroundings.around root here) [] ((root.at? here).getD (.directory [])).entries

/-- The walk to the files below a directory that are not ignored. -/
def ruledWalk (root : Entry) (here : List String) : List (List String) :=
  (projectFiles root here).map (·.path)

end TypedMvc.Files
