import TypedMvc.CSharp.Tree

/-!
# Grammars as values

A grammar is a value: terminals, sequences, ordered choices, repetitions, tests of what lies
ahead, named rules, and marks that say which nodes of the tree arise. `Grammar.read` matches a
grammar against the tokens from a position on. Its answer says where the match ends and which
nodes it yields, and in either case how far the best failed attempt came, what it had read by
then and which terminals it wanted next: repairing a broken text starts from there.
-/

namespace TypedMvc.CSharp

/-- What a grammar asks of one token. -/
inductive Terminal where
  /-- A punctuation mark. -/
  | mark (text : String)
  /-- A punctuation mark with nothing between it and the token before. -/
  | gluedMark (text : String)
  /-- A word that serves as a keyword. -/
  | keyword (text : String)
  /-- A word that is not reserved. -/
  | identifier
  /-- A number. -/
  | number
  /-- A character or string literal. -/
  | literal
  /-- A conditional directive. -/
  | directive (command : String)
  /-- Any token but one of the punctuation marks. -/
  | otherThan (marks : List String)
  /-- The end of the text. -/
  | finish
  deriving Repr, DecidableEq, Inhabited

/-- A grammar over the rules named by `ρ`. -/
inductive Grammar (ρ : Type) where
  /-- Matches nothing. -/
  | empty
  /-- One token; a supplied one may stand in for it when the flag is set. -/
  | terminal (t : Terminal) (suppliable : Bool)
  /-- One grammar after another. -/
  | seq (first second : Grammar ρ)
  /-- The second grammar where the first does not match. -/
  | choice (first second : Grammar ρ)
  /-- As many matches as there are. -/
  | many (body : Grammar ρ)
  /-- A test that the grammar matches here; it takes nothing. -/
  | ahead (body : Grammar ρ)
  /-- A test that the grammar does not match here; it takes nothing. -/
  | notAhead (body : Grammar ρ)
  /-- A named rule. -/
  | rule (name : ρ)
  /-- Wraps what the grammar yields in a node. -/
  | node (label : Label) (body : Grammar ρ)
  /-- Gives what the grammar yields a role. -/
  | role (role : Role) (body : Grammar ρ)

namespace Grammar

variable {ρ : Type}

/-- One grammar after another, all of a list. -/
def all : List (Grammar ρ) → Grammar ρ
  | [] => .empty
  | [g] => g
  | g :: rest => .seq g (all rest)

/-- The first grammar of a list that matches. -/
def oneOf : List (Grammar ρ) → Grammar ρ
  | [] => .notAhead .empty
  | [g] => g
  | g :: rest => .choice g (oneOf rest)

/-- A grammar or nothing. -/
def opt (g : Grammar ρ) : Grammar ρ := .choice g .empty

/-- At least one match. -/
def many1 (g : Grammar ρ) : Grammar ρ := .seq g (.many g)

/-- A punctuation mark. -/
def mark (text : String) : Grammar ρ := .terminal (.mark text) false

/-- A punctuation mark that may be supplied. -/
def closing (text : String) : Grammar ρ := .terminal (.mark text) true

/-- A keyword. -/
def keyword (text : String) : Grammar ρ := .terminal (.keyword text) false

/-- One of several keywords. -/
def keywords (texts : List String) : Grammar ρ := oneOf (texts.map keyword)

/-- One of several punctuation marks. -/
def marks (texts : List String) : Grammar ρ := oneOf (texts.map mark)

/-- One or more matches with a punctuation mark between any two. -/
def sepBy1 (separator : String) (g : Grammar ρ) : Grammar ρ :=
  .seq g (.many (.seq (mark separator) g))

/-- Matches with commas between them, a last comma allowed, or nothing. -/
def listOf (g : Grammar ρ) : Grammar ρ :=
  opt (.seq (sepBy1 "," g) (opt (mark ",")))

end Grammar

/-- The best failed attempt of a match: how far it came, the nodes it had read there, and the
terminals it wanted next. -/
structure Stuck where
  /-- The index of the token that did not fit. -/
  reach : Nat
  /-- What had been read by then, once for each way that came this far, computed when asked
  for. -/
  readings : Unit → List (List Node)
  /-- The terminals that would have fitted, with the flag that lets one be supplied. -/
  wanted : List (Terminal × Bool)

/-- An attempt that has not begun. -/
instance : Inhabited Stuck := ⟨⟨0, fun _ => [[]], []⟩⟩

/-- An attempt that wanted a terminal at a token. -/
def Stuck.wanting (position : Nat) (wanted : List (Terminal × Bool)) : Stuck :=
  ⟨position, fun _ => [[]], wanted⟩

/-- The attempt of two that came further; of two that came equally far both, the first one's
readings in front. -/
def Stuck.best (a b : Stuck) : Stuck :=
  if a.reach < b.reach then b
  else if b.reach < a.reach then a
  else if b.wanted.isEmpty then a
  else if a.wanted.isEmpty then b
  else
    { reach := a.reach
      readings := fun _ => a.readings () ++ b.readings ()
      wanted := a.wanted ++ b.wanted }

/-- An attempt that some nodes had been read in front of. -/
def Stuck.behind (nodes : List Node) (stuck : Stuck) : Stuck :=
  if nodes.isEmpty then stuck
  else { stuck with readings := fun _ => (stuck.readings ()).map (nodes ++ ·) }

/-- The outcome of matching a grammar. -/
structure Match where
  /-- Where the match ends and what it yields, unless it failed. -/
  result : Option (Nat × List Node)
  /-- The best failed attempt on the way. -/
  stuck : Stuck
  deriving Inhabited

/-- A token as the grammar sees it: with the error nodes to be read in front of it, and whether
it was supplied. -/
structure Item where
  /-- The token. -/
  token : Token
  /-- Errors that stand in front of it. -/
  errors : List Node
  /-- Whether the token was supplied for a missing one. -/
  supplied : Bool
  deriving Inhabited

/-- Whether a token fits a terminal. `isReserved` tells the words that are never identifiers. -/
def Terminal.fits (isReserved : String → Bool) (t : Terminal) (item : Item) : Bool :=
  let token := item.token
  match t with
  | .mark text => token.kind == .punctuation && token.text == text
  | .gluedMark text => token.kind == .punctuation && token.glued && token.text == text
  | .keyword text => token.kind == .word && token.text == text
  | .identifier => token.kind == .word && !isReserved token.text
  | .number => token.kind == .number
  | .literal => token.kind == .text
  | .directive command => token.kind == .directive && token.text == command
  | .otherThan marks =>
    !(token.kind == .punctuation && marks.contains token.text) && token.kind != .directive
  | .finish => false

/-- The text that stands for a supplied terminal; a supplied identifier has none. -/
def Terminal.supply : Terminal → Option (TokenKind × String)
  | .mark text => some (.punctuation, text)
  | .identifier => some (.word, "")
  | _ => none

/-- A language: the rules of its grammar and its reserved words. -/
structure Language (ρ : Type) where
  /-- The grammar that a rule stands for. -/
  rules : ρ → Grammar ρ
  /-- The words that are never identifiers. -/
  isReserved : String → Bool

namespace Grammar

variable {ρ : Type}

/-- The stretch from one token to before another; empty behind the token before if there is
nothing between. -/
def spanBetween (items : Array Item) (start stop : Nat) : Span :=
  match items[start]?, items[stop - 1]? with
  | some first, some last =>
    if start < stop then ⟨first.token.span.start, last.token.span.stop, first.token.span.line⟩
    else ⟨first.token.span.start, first.token.span.start, first.token.span.line⟩
  | _, some last => last.token.behind
  | _, none => ⟨0, 0, 1⟩

/-- The errors that stand in front of a token. -/
def errorsAt (items : Array Item) (position : Nat) : List Node :=
  match items[position]? with
  | some item => item.errors
  | none => []

/-- Repeats a step from a position on until it fails or stands still. The nodes are gathered in
reverse. -/
def iterate (step : Nat → Match) :
    (limit : Nat) → (position : Nat) → List (List Node) → Stuck → Match
  | 0, position, found, stuck => ⟨some (position, found.reverse.flatten), stuck⟩
  | limit + 1, position, found, stuck =>
    let one := step position
    let stuck := stuck.best ⟨one.stuck.reach,
      fun _ => (one.stuck.readings ()).map (found.reverse.flatten ++ ·), one.stuck.wanted⟩
    match one.result with
    | some (next, nodes) =>
      if next ≤ position then ⟨some (position, found.reverse.flatten), stuck⟩
      else iterate step limit next (nodes :: found) stuck
    | none => ⟨some (position, found.reverse.flatten), stuck⟩

/-- Matches a grammar against the tokens from a position on. The fuel bounds the nesting of
rules. A quiet match leaves out the errors in front of its first token, which the node around it
has in front of itself. -/
def read (language : Language ρ) (items : Array Item) (fuel : Nat) (g : Grammar ρ)
    (position : Nat) (quiet : Bool) : Match :=
  match g with
  | .empty => ⟨some (position, []), .wanting position []⟩
  | .terminal t suppliable =>
    match items[position]? with
    | some item =>
      if t.fits language.isReserved item && (suppliable || !item.supplied) then
        let own :=
          if item.supplied ∧ item.token.text ≠ "" then
            [Node.mk (.token item.token.text) none item.token.span true []]
          else []
        let errors := if quiet then [] else item.errors
        ⟨some (position + 1, errors ++ own), .wanting position []⟩
      else ⟨none, .wanting position [(t, suppliable)]⟩
    | none =>
      if t = .finish then ⟨some (position, []), .wanting position []⟩
      else ⟨none, .wanting position [(t, suppliable)]⟩
  | .seq first second =>
    let a := read language items fuel first position quiet
    match a.result with
    | none => a
    | some (middle, nodes) =>
      let b := read language items fuel second middle (quiet && middle == position)
      let stuck := a.stuck.best (b.stuck.behind nodes)
      match b.result with
      | none => ⟨none, stuck⟩
      | some (stop, more) =>
        ⟨some (stop, if more.isEmpty then nodes else nodes ++ more), stuck⟩
  | .choice first second =>
    let a := read language items fuel first position quiet
    match a.result with
    | some _ => a
    | none =>
      let b := read language items fuel second position quiet
      ⟨b.result, a.stuck.best b.stuck⟩
  | .many body =>
    iterate (fun p => read language items fuel body p (quiet && p == position))
      (items.size + 1 - position) position [] (.wanting position [])
  | .ahead body =>
    match (read language items fuel body position quiet).result with
    | some _ => ⟨some (position, []), .wanting position []⟩
    | none => ⟨none, .wanting position []⟩
  | .notAhead body =>
    match (read language items fuel body position quiet).result with
    | some _ => ⟨none, .wanting position []⟩
    | none => ⟨some (position, []), .wanting position []⟩
  | .rule name =>
    match fuel with
    | 0 => ⟨none, .wanting position []⟩
    | fuel + 1 => read language items fuel (language.rules name) position quiet
  | .node label body =>
    let errors := if quiet then [] else errorsAt items position
    let inner := read language items fuel body position true
    match inner.result with
    | some (stop, nodes) =>
      let whole := Node.mk label none (spanBetween items position stop) false nodes
      ⟨some (stop, errors ++ [whole]), inner.stuck.behind errors⟩
    | none => ⟨none, inner.stuck.behind errors⟩
  | .role part body =>
    let inner := read language items fuel body position quiet
    match inner.result with
    | some (stop, nodes) =>
      ⟨some (stop, nodes.map fun n => if n.isError then n else n.withRole part), inner.stuck⟩
    | none => inner
termination_by (fuel, sizeOf g)

end Grammar

end TypedMvc.CSharp
