import TypedMvc.CSharp.Language

/-!
# Repairing broken source text

A text that the grammar does not match is repaired at the furthest token that does not fit: a token
is supplied in front of it, or tokens before and behind it are set aside in an error node. Every
repair has a price. Of all repaired texts that the grammar matches, the cheapest is taken; setting
aside goes before supplying where both cost the same. If no repair helps, the whole text becomes
one error node that holds what could be read.
-/

namespace TypedMvc.CSharp

/-! ## Prices -/

/-- The price of supplying a token. -/
def supplyPrice : Nat := 610

/-- The price of an error node. -/
def errorPrice : Nat := 500

/-- The price of each line break inside an error node. -/
def linePrice : Nat := 30

/-- The price of each tree or token inside an error node. -/
def treePrice : Nat := 100

/-- How many visible tokens a token that is set aside on its own counts for. Identifiers do not
count, and a text literal has marks on both sides. -/
def Token.weight (token : Token) : Nat :=
  match token.kind with
  | .word => if Naming.isKeyword token.text then 1 else 0
  | .text => 3
  | _ => 1

/-! ## Repaired texts -/

/-- A text after some repairs. -/
structure Draft where
  /-- The tokens with the errors in front of them. -/
  items : Array Item
  /-- The errors behind the last token. -/
  trailing : List Node
  /-- What the repairs cost. -/
  price : Nat
  /-- How many tokens have to be matched for the last repair to have helped. -/
  goal : Nat
  deriving Inhabited

/-- The outcome of matching a draft. -/
def Draft.outcome (draft : Draft) : Match :=
  let items := draft.items
  Grammar.read csharp items (100 * (items.size + 2)) (.rule .compilationUnit) 0 false

/-- The draft of a text without repairs. -/
def Draft.ofTokens (tokens : Array Token) : Draft :=
  ⟨tokens.map fun token => ⟨token, [], false⟩, [], 0, 0⟩

/-- Puts nodes around the children of the root of a tree. Errors in front of the first token are
outside of the root until then. -/
def enclose (nodes trailing : List Node) : Option Node :=
  match nodes.getLast? with
  | some (.mk label role span supplied children) =>
    some (.mk label role span supplied (nodes.dropLast ++ children ++ trailing))
  | none => none

/-! ## Setting tokens aside -/

/-- A place in front of the failing token from which tokens can be set aside. -/
structure Cut where
  /-- The index of the first token. -/
  first : Nat
  /-- How many trees lie between there and the failing token. -/
  trees : Nat
  /-- The nodes that have been read from there on. -/
  nodes : List Node

/-- How many places in front of the failing token are tried. -/
def maxCuts : Nat := 16

/-- The places in front of a token from which tokens can be set aside: in front of each node that
has been read, and of each token outside of them. The nodes come last first. -/
def cutsBefore (items : Array Item) : (limit index : Nat) → (nodes : List Node) → Cut → List Cut
  | 0, _, _, _ => []
  | _, 0, _, _ => []
  | limit + 1, index + 1, nodes, cut =>
    match items[index]?, nodes with
    | some item, node :: rest =>
      let position := item.token.span.start
      if node.span.stop ≤ position then
        let next := { cut with first := index, trees := cut.trees + 1 }
        next :: cutsBefore items limit index nodes next
      else if node.span.start < position then cutsBefore items (limit + 1) index nodes cut
      else
        let next : Cut := ⟨index, cut.trees + 1, node :: cut.nodes⟩
        next :: cutsBefore items limit index rest next
    | _, _ =>
      let next := { cut with first := index, trees := cut.trees + 1 }
      next :: cutsBefore items limit index nodes next

/-- The places with the fewest trees for each first token. -/
def bestCuts (cuts : List Cut) : List Cut :=
  cuts.foldl (fun best cut =>
    match best.find? fun other => other.first == cut.first with
    | none => best ++ [cut]
    | some other =>
      if cut.trees < other.trees then
        best.map fun o => if o.first == cut.first then cut else o
      else best) []

/-- The places at or in front of the failing token from which tokens can be set aside. -/
def cutsAt (items : Array Item) (stuck : Stuck) : List Cut :=
  let start : Cut := ⟨stuck.reach, 0, []⟩
  let readings := (stuck.readings ()).eraseDupsBy fun a b => a.map Node.span == b.map Node.span
  start :: bestCuts (readings.flatMap fun nodes =>
    cutsBefore items maxCuts stuck.reach (nodes.reverse.filter fun n => !n.isError) start)

/-- The line breaks in a stretch of text. -/
def breaksIn (source : Source) (span : Span) : Nat :=
  ((source.chars.extract span.start span.stop).toList).count '\n'

/-- The price of an error node over a stretch of text with some trees in it. -/
def priceOf (source : Source) (span : Span) (trees : Nat) : Nat :=
  errorPrice + (source.slice span).utf8ByteSize + linePrice * breaksIn source span +
    treePrice * trees

/-- A token as it stands behind an error node. A reserved word that does not fit where it stands is
no reserved word. -/
def Token.asIdentifier (token : Token) : Token :=
  if token.kind == .word && Naming.isKeyword token.text then { token with text := "" } else token

/-- A token that stands for an identifier stands behind what it stood behind. -/
@[simp] theorem Token.before_asIdentifier (token : Token) :
    token.asIdentifier.before = token.before := by
  rw [asIdentifier]
  split <;> rfl

/-- It stands where it stood. -/
@[simp] theorem Token.span_asIdentifier (token : Token) : token.asIdentifier.span = token.span := by
  rw [asIdentifier]
  split <;> rfl

/-- It ends where it ended. -/
@[simp] theorem Token.behind_asIdentifier (token : Token) :
    token.asIdentifier.behind = token.behind := by
  rw [asIdentifier]
  split <;> rfl

/-- The draft in which the tokens from a cut to in front of another token are set aside. -/
def Draft.setAside (source : Source) (draft : Draft) (failing : Nat) (cut : Cut) (next : Nat) :
    Draft :=
  let items := draft.items
  let span := Grammar.spanBetween items cut.first next
  let skipped := (items.extract (failing + 1) next).foldl (· + ·.token.weight) 0
  let atFailing :=
    match items[failing]? with
    | some item => if failing < next then item.token.asIdentifier.weight else 0
    | none => 0
  let errors := (items.extract cut.first next).toList.flatMap (·.errors)
  let error := Node.mk .error none span false (errors ++ cut.nodes)
  let price := draft.price + priceOf source span (cut.trees + atFailing + skipped)
  let before := items.extract 0 cut.first
  match items[next]? with
  | some item =>
    let token := if next = failing then item.token.asIdentifier else item.token
    let item := { item with token, errors := error :: item.errors }
    { draft with
      items := before.push item ++ items.extract (next + 1) items.size
      price
      goal := cut.first + 1 }
  | none =>
    { items := before, trailing := error :: draft.trailing, price, goal := before.size + 1 }

/-- How many tokens behind the failing one are set aside at most, the end of the text aside. -/
def maxSkipped : Nat := 24

/-- The index of the first token from an index on that is cut off by the end of a line or of the
text, or of the end of the text. -/
def firstUnterminated (items : Array Item) (start : Nat) : Nat :=
  start + ((items.extract start items.size).toList.takeWhile
    fun item => item.token.kind != .unterminated).length

/-- The drafts in which tokens around the failing one are set aside. -/
def Draft.setAsides (source : Source) (draft : Draft) (stuck : Stuck) : List Draft :=
  let failing := stuck.reach
  let size := draft.items.size
  let last := firstUnterminated draft.items failing
  let nexts := (List.range (maxSkipped + 1)).map (failing + ·)
  let nexts := (nexts.filter (· < min last size)) ++ if last = size then [size] else []
  (cutsAt draft.items stuck).flatMap fun cut =>
    (nexts.filter (cut.first < ·)).map fun next => draft.setAside source failing cut next

/-! ## Supplying tokens -/

/-- The draft in which a token is supplied in front of the failing one. It stands where the token or
remark before ends. -/
def Draft.supply (draft : Draft) (failing : Nat) (kind : TokenKind) (text : String) : Draft :=
  let items := draft.items
  let place : Span :=
    match items[failing]? with
    | some item => item.token.before
    | none => ⟨0, 0, 1⟩
  let item : Item := ⟨⟨kind, text, place, place, place, false⟩, [], true⟩
  { draft with
    items := (items.extract 0 failing).push item ++ items.extract failing items.size
    price := draft.price + supplyPrice
    goal := failing + 2 }

/-- The drafts in which a token is supplied that fits in front of the failing one. -/
def Draft.supplies (draft : Draft) (stuck : Stuck) : List Draft :=
  let terminals := (stuck.wanted.filter (·.2)).map (·.1)
  if stuck.reach < draft.items.size then
    terminals.eraseDups.filterMap fun terminal =>
      terminal.supply.map fun (kind, text) => draft.supply stuck.reach kind text
  else []

/-! ## The search -/

/-- Whether one draft is tried before another: it costs less, or as much and comes first. -/
def Draft.le (a b : Draft) : Bool := a.price ≤ b.price

/-- The drafts with one more repair, cheapest first. -/
def Draft.repairs (source : Source) (draft : Draft) (stuck : Stuck) : List Draft :=
  (draft.setAsides source stuck ++ draft.supplies stuck).mergeSort Draft.le

/-- The tree of the cheapest draft that the grammar matches, if there is one among those that can
be reached in some number of attempts. The drafts come cheapest first. -/
def search (source : Source) : (attempts : Nat) → List Draft → Option Node
  | 0, _ => none
  | _, [] => none
  | attempts + 1, draft :: rest =>
    let outcome := draft.outcome
    match outcome.result with
    | some (_, nodes) => enclose nodes draft.trailing
    | none =>
      -- A repair that did not help is not built upon.
      if outcome.stuck.reach < draft.goal then search source attempts rest
      else
        search source attempts
          (List.merge rest (draft.repairs source outcome.stuck) Draft.le)

/-- The tree of a text that is one error as a whole. -/
def wholeError (items : Array Item) (stuck : Stuck) : Node :=
  .mk .error none (Grammar.spanBetween items 0 items.size) false ((stuck.readings ()).headD [])

/-- How many repaired texts are tried. -/
def maxAttempts : Nat := 400

/-- The tree of a text with the tokens given. -/
def treeOf (source : Source) (tokens : Array Token) : Node :=
  let draft := Draft.ofTokens tokens
  match search source maxAttempts [draft] with
  | some root => root
  | none => wholeError draft.items draft.outcome.stuck

end TypedMvc.CSharp
