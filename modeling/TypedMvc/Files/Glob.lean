/-!
# Patterns of paths

A pattern stands for a set of paths: `?` for one byte, `*` for any number of them, brackets for
one byte of several, braces for alternatives, and two stars between slashes for any number of
directories. Paths are matched byte by byte. Whether `?` and `*` may stand for a slash is up to
whoever matches.
-/

namespace TypedMvc.Files

/-- A part of a pattern. -/
inductive GlobToken where
  /-- A character that stands for itself. -/
  | literal (c : Char)
  /-- One byte. -/
  | any
  /-- Any number of bytes. -/
  | many
  /-- Any number of directories in front of a path. -/
  | leading
  /-- Everything in a directory. -/
  | trailing
  /-- Any number of directories between two others. -/
  | between
  /-- One byte of those in some ranges, or one that is in none of them. -/
  | oneOf (negated : Bool) (ranges : List (Char × Char))
  /-- One of several patterns. -/
  | alternatives (branches : List (List GlobToken))
  deriving Repr, Inhabited

/-- A pattern. -/
abbrev Glob := List GlobToken

namespace Glob

/-- The bytes of a character. -/
def bytesOf (c : Char) : List UInt8 := (String.singleton c).toUTF8.toList

/-- The slash. -/
def slash : UInt8 := 47

/-- The ranges of bytes that a range of characters stands for: the bytes of the two ends, and what
lies between the last byte of the first and the first byte of the second. -/
def byteRanges (range : Char × Char) : List (UInt8 × UInt8) :=
  let first := bytesOf range.1
  let last := bytesOf range.2
  if range.1 = range.2 then first.map fun b => (b, b)
  else
    (first.dropLast.map fun b => (b, b)) ++
      ((first.getLast?.bind fun low => last.head?.map fun high => (low, high)).toList) ++
      (last.drop 1).map fun b => (b, b)

/-- Whether a byte lies in one of some ranges. -/
def inRanges (ranges : List (Char × Char)) (b : UInt8) : Bool :=
  (ranges.flatMap byteRanges).any fun r => r.1 ≤ b && b ≤ r.2

/-- Whether the rest of a text is matched behind some number of bytes of a sort. -/
def behindMany (allowed : UInt8 → Bool) (rest : List UInt8 → Bool) : List UInt8 → Bool
  | [] => rest []
  | b :: bytes => rest (b :: bytes) || (allowed b && behindMany allowed rest bytes)

/-- Whether the rest of a text is matched behind one of its slashes. -/
def behindSlash (rest : List UInt8 → Bool) : List UInt8 → Bool
  | [] => false
  | b :: bytes => (b == slash && rest bytes) || behindSlash rest bytes

mutual
/-- Whether a pattern holds nothing but alternatives of nothing. -/
def isVoid : List GlobToken → Bool
  | [] => true
  | token :: rest => isVoidToken token && isVoid rest

/-- Whether a part of a pattern is alternatives of nothing. -/
def isVoidToken : GlobToken → Bool
  | .alternatives branches => areVoid branches
  | _ => false

/-- Whether all patterns hold nothing but alternatives of nothing. -/
def areVoid : List (List GlobToken) → Bool
  | [] => true
  | branch :: rest => isVoid branch && areVoid rest
end

mutual
/-- Whether a text is matched by a part of a pattern and by what is expected behind it. `wild`
tells the bytes that wildcards stand for. -/
def tokenMatches (wild : UInt8 → Bool) (rest : List UInt8 → Bool) :
    GlobToken → List UInt8 → Bool
  | .literal c, bytes =>
    let own := bytesOf c
    own.isPrefixOf bytes && rest (bytes.drop own.length)
  | .any, bytes =>
    match bytes with
    | b :: after => wild b && rest after
    | [] => false
  | .many, bytes => behindMany wild rest bytes
  | .leading, bytes =>
    rest bytes || (bytes.head? == some slash && rest (bytes.drop 1)) || behindSlash rest bytes
  | .trailing, bytes =>
    bytes.head? == some slash && behindMany (fun _ => true) rest (bytes.drop 1)
  | .between, bytes =>
    bytes.head? == some slash && (rest (bytes.drop 1) || behindSlash rest (bytes.drop 1))
  | .oneOf negated ranges, bytes =>
    match bytes with
    | b :: after => (inRanges ranges b != negated) && rest after
    | [] => false
  | .alternatives branches, bytes =>
    if areVoid branches then rest bytes else branchMatches wild rest branches bytes

/-- Whether a text is matched by one of several patterns and by what is expected behind it.
Patterns of nothing do not count. -/
def branchMatches (wild : UInt8 → Bool) (rest : List UInt8 → Bool) :
    List (List GlobToken) → List UInt8 → Bool
  | [], _ => false
  | branch :: others, bytes =>
    (!isVoid branch && tokensMatch wild rest branch bytes) ||
      branchMatches wild rest others bytes

/-- Whether a text is matched by a pattern and by what is expected behind it. -/
def tokensMatch (wild : UInt8 → Bool) (rest : List UInt8 → Bool) :
    List GlobToken → List UInt8 → Bool
  | [], bytes => rest bytes
  | token :: others, bytes =>
    tokenMatches wild (fun after => tokensMatch wild rest others after) token bytes
end

/-- Whether a path is matched by a pattern. -/
def matchesWith (wild : UInt8 → Bool) (glob : Glob) (path : String) : Bool :=
  match glob with
  | [.leading] => true
  | tokens => tokensMatch wild List.isEmpty tokens path.toUTF8.toList

/-- Whether a path is matched by a pattern whose wildcards stand for slashes too. -/
def isMatch (glob : Glob) (path : String) : Bool := glob.matchesWith (fun _ => true) path

/-- Whether a path is matched by a pattern whose wildcards stay inside one directory. -/
def isMatchByStep (glob : Glob) (path : String) : Bool :=
  glob.matchesWith (fun b => b != slash) path

end Glob

end TypedMvc.Files
