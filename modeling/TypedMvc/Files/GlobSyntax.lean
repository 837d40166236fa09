import TypedMvc.Files.Glob
import TypedMvc.Text.Quoted

/-!
# Reading patterns of paths

How a pattern is written down. A backslash takes the meaning from the character behind it, except
in brackets. Braces may be nested. A pattern with a fault is refused, and the first fault counts.
Other readers of patterns can take the place of this one (`PatternReader`).
-/

namespace TypedMvc.Files

/-- What is wrong with a pattern. -/
inductive GlobError where
  /-- A bracket is not closed. -/
  | unclosedClass
  /-- A range ends before it begins. -/
  | invalidRange (first last : Char)
  /-- A closing brace was not opened. -/
  | unopenedAlternatives
  /-- A brace is not closed. -/
  | unclosedAlternatives
  /-- Nothing follows a backslash. -/
  | danglingEscape
  deriving Repr, DecidableEq, Inhabited

/-- The message for a fault. -/
def GlobError.message : GlobError → String
  | .unclosedClass => "unclosed character class; missing ']'"
  | .invalidRange first last =>
    "invalid range; '" ++ String.singleton first ++ "' > '" ++ String.singleton last ++ "'"
  | .unopenedAlternatives =>
    "unopened alternate group; missing '\x7b' (maybe escape '\x7d' with '[\x7d]'?)"
  | .unclosedAlternatives =>
    "unclosed alternate group; missing '\x7d' (maybe escape '\x7b' with '[\x7b]'?)"
  | .danglingEscape => "dangling '\\'"

/-- The message for a fault in a pattern. -/
def GlobError.report (pattern : String) (error : GlobError) : String :=
  "error parsing glob '" ++ pattern ++ "': " ++ error.message

/-- The ranges of a bracket while it is read, last one first. -/
structure OpenClass where
  /-- The ranges. -/
  ranges : List (Char × Char)
  /-- Whether the last character was a hyphen behind a possible first end. -/
  inRange : Bool

/-- Adds a character to a bracket. -/
def OpenClass.add (c : Char) (openClass : OpenClass) : Except GlobError OpenClass :=
  match openClass.inRange, openClass.ranges with
  | true, (first, _) :: rest =>
    if c < first then .error (.invalidRange first c) else .ok ⟨(first, c) :: rest, false⟩
  | _, ranges => .ok ⟨(c, c) :: ranges, false⟩

/-- Reads a bracket behind its first characters. Gives the ranges and what follows; none if the
bracket is not closed. -/
def classFrom (openClass : OpenClass) (isFirst : Bool) :
    List Char → Except GlobError (Option (List (Char × Char) × List Char))
  | [] => .ok none
  | c :: rest =>
    if c = ']' ∧ !isFirst then
      let ranges := if openClass.inRange then ('-', '-') :: openClass.ranges else openClass.ranges
      .ok (some (ranges.reverse, rest))
    else if c = '-' ∧ !isFirst ∧ !openClass.inRange then
      classFrom { openClass with inRange := true } false rest
    else
      match openClass.add c with
      | .ok openClass => classFrom openClass false rest
      | .error error => .error error

/-- Reads a bracket behind its opening mark. -/
def readClass (text : List Char) : Except GlobError (Option (GlobToken × List Char)) :=
  let negated := text.head? == some '!' || text.head? == some '^'
  let body := if negated then text.drop 1 else text
  (classFrom ⟨[], false⟩ true body).map fun found =>
    found.map fun (ranges, rest) => (.oneOf negated ranges, rest)

/-- A pattern while it is read. Parts and branches are in reverse. -/
structure OpenGlob where
  /-- The branch that is read. -/
  tokens : List GlobToken
  /-- The groups around it, innermost first: the finished branches of each, and what stands in
  front of it. -/
  groups : List (List (List GlobToken) × List GlobToken)
  /-- Whether an unclosed bracket was met, so that brackets stand for themselves. -/
  plainBrackets : Bool

namespace OpenGlob

/-- Adds a part. -/
def push (state : OpenGlob) (token : GlobToken) : OpenGlob :=
  { state with tokens := token :: state.tokens }

/-- Adds a part in place of the last one, unless that is of a sort that takes the new one in. -/
def replaceLast (state : OpenGlob) (token : GlobToken) : OpenGlob :=
  match state.tokens with
  | .leading :: _ | .trailing :: _ => state
  | _ :: rest => { state with tokens := token :: rest }
  | [] => { state with tokens := [token] }

/-- Adds two stars in a row that mean no more than one. -/
def pushTwoStars (state : OpenGlob) : OpenGlob := (state.push .many).push .many

/-- Opens a group. -/
def openGroup (state : OpenGlob) : OpenGlob :=
  { state with tokens := [], groups := ([], state.tokens) :: state.groups }

/-- Ends a branch of a group. -/
def nextBranch (state : OpenGlob) : OpenGlob :=
  match state.groups with
  | (branches, before) :: outer =>
    { state with tokens := [], groups := (state.tokens.reverse :: branches, before) :: outer }
  | [] => state.push (.literal ',')

/-- Closes a group. -/
def closeGroup (state : OpenGlob) : Except GlobError OpenGlob :=
  match state.groups with
  | (branches, before) :: outer =>
    let all := (state.tokens.reverse :: branches).reverse
    .ok { state with tokens := .alternatives all :: before, groups := outer }
  | [] => .error .unopenedAlternatives

/-- Adds two stars, given the character in front of them and the text behind them. Gives what is
left of the text. -/
def twoStars (state : OpenGlob) (previous : Option Char) (text : List Char) :
    OpenGlob × List Char :=
  let inGroup := !state.groups.isEmpty
  if state.tokens.isEmpty then
    match text with
    | [] => (state.push .leading, [])
    | '/' :: rest => (state.push .leading, rest)
    | text => (state.pushTwoStars, text)
  else if previous ≠ some '/' ∧ !(inGroup ∧ (previous = some ',' ∨ previous = some '\x7b')) then
    (state.pushTwoStars, text)
  else
    match text with
    | [] => (state.replaceLast .trailing, [])
    | '/' :: rest => (state.replaceLast .between, rest)
    | c :: rest =>
      if inGroup ∧ (c = ',' ∨ c = '\x7d') then (state.replaceLast .trailing, c :: rest)
      else (state.pushTwoStars, c :: rest)

end OpenGlob

/-- Reads the rest of a pattern. `lenient` lets an unclosed bracket stand for itself. -/
def globFrom (lenient : Bool) : (fuel : Nat) → OpenGlob → (previous : Option Char) →
    List Char → Except GlobError Glob
  | 0, _, _, _ => .ok []
  | _ + 1, state, _, [] =>
    if state.groups.isEmpty then .ok state.tokens.reverse else .error .unclosedAlternatives
  | fuel + 1, state, previous, c :: rest =>
    match c with
    | '?' => globFrom lenient fuel (state.push .any) (some c) rest
    | '*' =>
      match rest with
      | '*' :: rest =>
        let (state, after) := state.twoStars previous rest
        let last := if after.length < rest.length then '/' else '*'
        globFrom lenient fuel state (some last) after
      | _ => globFrom lenient fuel (state.push .many) (some c) rest
    | '[' =>
      if state.plainBrackets then globFrom lenient fuel (state.push (.literal c)) (some c) rest
      else
        match readClass rest with
        | .error error => .error error
        | .ok (some (token, rest)) => globFrom lenient fuel (state.push token) (some ']') rest
        | .ok none =>
          if lenient then
            globFrom lenient fuel { state.push (.literal c) with plainBrackets := true } (some c)
              rest
          else .error .unclosedClass
    | '\x7b' => globFrom lenient fuel state.openGroup (some c) rest
    | '\x7d' =>
      match state.closeGroup with
      | .ok state => globFrom lenient fuel state (some c) rest
      | .error error => .error error
    | ',' => globFrom lenient fuel state.nextBranch (some c) rest
    | '\\' =>
      match rest with
      | [] => .error .danglingEscape
      | e :: rest => globFrom lenient fuel (state.push (.literal e)) (some e) rest
    | _ => globFrom lenient fuel (state.push (.literal c)) (some c) rest

/-- Reads a pattern. -/
def Glob.parse (lenient : Bool) (pattern : String) : Except GlobError Glob :=
  let text := pattern.toList
  globFrom lenient (text.length + 1) ⟨[], [], false⟩ none text

/-- A reader of patterns: it tells which paths a pattern stands for, or what is wrong with it. -/
abbrev PatternReader := String → Except String (String → Bool)

/-- Reads a pattern whose wildcards stand for slashes too. -/
def Glob.read (pattern : String) : Except String (String → Bool) :=
  match Glob.parse false pattern with
  | .ok glob => .ok glob.isMatch
  | .error error => .error (error.report pattern)

end TypedMvc.Files
