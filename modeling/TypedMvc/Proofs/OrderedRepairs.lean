import TypedMvc.CSharp.Parse
import TypedMvc.Proofs.FaultOrder

/-!
# Repairs in the order of the text

The outermost faults of the tree of a text start further and further on in the text
(`pairwise_faultStarts_parse`), so the order of their places is that in which they are met there.
The lexer takes the tokens off the text in order (`inOrder_lex`), and repairs keep them so: tokens
are set aside in an error node that starts where the first of them does, and a supplied token stands
where the one in front of it ends. Neither is put where an error node stands already, since a repair
is only built upon once its goal has been reached, and there are no errors from the goal on
(`Draft.IsInOrder.repairs`).
-/

namespace TypedMvc.CSharp

/-! ## Lexing -/

/-- A token stands behind another one, and so does what is in front of it. -/
def Token.Precedes (a b : Token) : Prop := a.span.start ≤ b.before.start

/-- Tokens in the order of the text. -/
structure Token.AreInOrder (tokens : List Token) : Prop where
  /-- Each stands behind where the one in front of it ends. -/
  forward : ∀ token ∈ tokens, token.before.start ≤ token.span.start
  /-- They stand behind each other. -/
  ordered : tokens.Pairwise Token.Precedes

/-- The lexer goes through the text in order. -/
theorem inOrder_lexFrom {cursor : Cursor} {text : List Char} {lexed : Lexed}
    (forward : cursor.last.start ≤ cursor.position)
    (behind : ∀ token ∈ lexed.tokens.toList, token.span.start ≤ cursor.last.start)
    (inOrder : Token.AreInOrder lexed.tokens.toList) :
    Token.AreInOrder (lexFrom cursor text lexed).tokens.toList := by
  fun_induction lexFrom cursor text lexed with
  | case1 => exact inOrder
  | case2 cursor text lexed _ lexeme length taken span line rest isBlank ih =>
    exact ih (forward.trans (Nat.le_add_right _ _)) behind inOrder
  | case3 cursor text lexed _ lexeme length taken span line ends rest isRemark ih =>
    have further : cursor.last.start ≤ span.stop := forward.trans (Nat.le_add_right _ _)
    exact ih le_rfl (fun token mem => (behind token mem).trans further) inOrder
  | case4 cursor text lexed _ lexeme length taken span line ends rest kind isToken token ih =>
    have further : cursor.last.start ≤ span.stop := forward.trans (Nat.le_add_right _ _)
    have own : span.start ≤ span.stop := Nat.le_add_right _ _
    refine ih le_rfl ?_ ⟨?_, ?_⟩
    all_goals rw [Array.toList_push]
    · exact List.forall_mem_append.mpr
        ⟨fun other mem => (behind other mem).trans further, List.forall_mem_singleton.mpr own⟩
    · exact List.forall_mem_append.mpr ⟨inOrder.forward, List.forall_mem_singleton.mpr forward⟩
    · refine List.pairwise_append.mpr
        ⟨inOrder.ordered, List.pairwise_singleton _ _, fun other mem => ?_⟩
      exact List.forall_mem_singleton.mpr (behind other mem)

/-- The tokens of a text are in order. -/
theorem inOrder_lex (source : Source) : Token.AreInOrder (lex source).tokens.toList :=
  inOrder_lexFrom le_rfl nofun ⟨nofun, .nil⟩

/-! ## Repairing -/

/-- A token behind an error node, if there is one. -/
structure Item.IsInOrder (item : Item) : Prop where
  /-- The token stands behind where the one in front of it ends. -/
  forward : item.token.before.start ≤ item.token.span.start
  /-- There is one error at most. -/
  single : item.errors.length ≤ 1
  /-- It is one and does not start behind the token. -/
  errors : ∀ error ∈ item.errors, error.IsFault ∧ error.span.start ≤ item.token.span.start

/-- A token stands behind another one, and so do the errors in front of it. -/
structure Item.Precedes (a b : Item) : Prop where
  /-- What is in front of the token stands behind the other one. -/
  token : a.token.Precedes b.token
  /-- So do the errors. -/
  errors : ∀ error ∈ b.errors, a.token.span.start ≤ error.span.start

/-- Tokens and the errors in front of them in the order of the text. -/
structure Item.AreInOrder (items : List Item) : Prop where
  /-- Each token stands behind the error in front of it. -/
  each : ∀ item ∈ items, item.IsInOrder
  /-- They stand behind each other. -/
  ordered : items.Pairwise Item.Precedes

/-- A text after some repairs, with everything in order. -/
structure Draft.IsInOrder (draft : Draft) : Prop where
  /-- The tokens and the errors in front of them are in order. -/
  items : Item.AreInOrder draft.items.toList
  /-- From the goal on there are no errors. -/
  fresh : ∀ item ∈ draft.items.toList.drop draft.goal, item.errors = []
  /-- The errors behind the last token are in order. -/
  trailing : (draft.trailing.map fun error => error.span.start).Pairwise (· ≤ ·)
  /-- They are errors and stand behind all tokens. -/
  last : ∃ last, (∀ item ∈ draft.items.toList, item.token.span.start ≤ last) ∧
    ∀ error ∈ draft.trailing, error.IsFault ∧ last ≤ error.span.start

/-- A list parts at an item of it. -/
theorem exists_parts {α : Type} {items : List α} {index : ℕ} {item : α}
    (here : items[index]? = some item) :
    ∃ front behind, items = front ++ item :: behind ∧ front.length = index := by
  obtain ⟨lt, rfl⟩ := List.getElem?_eq_some_iff.mp here
  refine ⟨items.take index, items.drop (index + 1), ?_, List.length_take_of_le lt.le⟩
  rw [List.getElem_cons_drop, List.take_append_drop]

/-- A text without repairs is in order. -/
theorem inOrder_ofTokens {tokens : Array Token} (inOrder : Token.AreInOrder tokens.toList) :
    (Draft.ofTokens tokens).IsInOrder := by
  have items : (Draft.ofTokens tokens).items.toList =
      tokens.toList.map fun token => ⟨token, [], false⟩ := Array.toList_map
  refine ⟨⟨?_, ?_⟩, ?_, .nil, ?_⟩
  · rw [items]
    exact List.forall_mem_map.mpr fun token mem => ⟨inOrder.forward token mem, Nat.zero_le 1, nofun⟩
  · rw [items, List.pairwise_map]
    exact inOrder.ordered.imp fun precedes => ⟨precedes, nofun⟩
  · intro item mem
    obtain ⟨token, -, rfl⟩ := List.mem_map.mp (items ▸ List.mem_of_mem_drop mem)
    rfl
  · rw [items]
    refine ⟨(tokens.toList.map fun token => token.span.start).max?.getD 0, ?_, nofun⟩
    refine List.forall_mem_map.mpr fun token mem => ?_
    exact List.le_max?_getD_of_mem (List.mem_map_of_mem mem)

/-- The tokens from one to in front of another are set aside in an error node that starts where the
first one does. -/
theorem Item.AreInOrder.setAside {front middle behind : List Item} {first next : Item}
    (inOrder : AreInOrder (front ++ first :: (middle ++ next :: behind))) {token : Token}
    (before : token.before = next.token.before) (span : token.span = next.token.span) {error : Node}
    (fault : error.IsFault) (start : error.span.start = first.token.span.start) (supplied : Bool) :
    AreInOrder (front ++ ⟨token, [error], supplied⟩ :: behind) := by
  obtain ⟨each, ordered⟩ := inOrder
  obtain ⟨orderedFront, orderedFirst, across⟩ := List.pairwise_append.mp ordered
  obtain ⟨behindFirst, orderedRest⟩ := List.pairwise_cons.mp orderedFirst
  obtain ⟨-, orderedNext, -⟩ := List.pairwise_append.mp orderedRest
  obtain ⟨behindNext, orderedBehind⟩ := List.pairwise_cons.mp orderedNext
  have isNext : next ∈ middle ++ next :: behind := List.mem_append_right _ List.mem_cons_self
  have kept {item : Item} (mem : item ∈ behind) : item ∈ first :: (middle ++ next :: behind) :=
    List.mem_cons_of_mem _ (List.mem_append_right _ (List.mem_cons_of_mem _ mem))
  have eachFirst := each first (List.mem_append_right _ List.mem_cons_self)
  have eachNext := each next (List.mem_append_right _ (List.mem_cons_of_mem _ isNext))
  -- The item stands where `next` stood, and its error starts where `first` does.
  have own : IsInOrder ⟨token, [error], supplied⟩ := by
    refine ⟨?_, Nat.le_refl 1, List.forall_mem_singleton.mpr ⟨fault, ?_⟩⟩
    · rw [before, span]
      exact eachNext.forward
    · rw [start, span]
      exact (behindFirst next isNext).token.trans eachNext.forward
  constructor
  · refine List.forall_mem_append.mpr ⟨fun item mem => ?_, List.forall_mem_cons.mpr ⟨own, ?_⟩⟩
    · exact each item (List.mem_append_left _ mem)
    · exact fun item mem => each item (List.mem_append_right _ (kept mem))
  · refine List.pairwise_append.mpr
      ⟨orderedFront, List.pairwise_cons.mpr ⟨fun item mem => ?_, orderedBehind⟩, ?_⟩
    · obtain ⟨follows, errors⟩ := behindNext item mem
      rw [Token.Precedes, ← span] at follows
      exact ⟨follows, fun other isError => by rw [span]; exact errors other isError⟩
    · intro item mem
      refine List.forall_mem_cons.mpr ⟨⟨?_, ?_⟩, fun other isBehind => ?_⟩
      · have follows := (across item mem next (List.mem_cons_of_mem _ isNext)).token
        rw [Token.Precedes, ← before] at follows
        exact follows
      · refine List.forall_mem_singleton.mpr ?_
        rw [start]
        exact (across item mem first List.mem_cons_self).token.trans eachFirst.forward
      · exact across item mem other (kept isBehind)

/-- A token is supplied in front of one without errors, where the one before ends. -/
theorem Item.AreInOrder.supply {front behind : List Item} {next : Item}
    (inOrder : AreInOrder (front ++ next :: behind)) (clear : next.errors = [])
    (kind : TokenKind) (text : String) (glued : Bool) :
    let place := next.token.before
    AreInOrder
      (front ++ ⟨⟨kind, text, place, place, place, glued⟩, [], true⟩ :: next :: behind) := by
  intro place
  obtain ⟨each, ordered⟩ := inOrder
  obtain ⟨orderedFront, orderedNext, across⟩ := List.pairwise_append.mp ordered
  obtain ⟨behindNext, -⟩ := List.pairwise_cons.mp orderedNext
  have eachNext := each next (List.mem_append_right _ List.mem_cons_self)
  constructor
  · obtain ⟨eachFront, eachRest⟩ := List.forall_mem_append.mp each
    exact List.forall_mem_append.mpr ⟨eachFront, List.forall_mem_cons.mpr
      ⟨⟨Nat.le_refl _, Nat.zero_le 1, nofun⟩, eachRest⟩⟩
  · refine List.pairwise_append.mpr
      ⟨orderedFront, List.pairwise_cons.mpr ⟨?_, orderedNext⟩, fun item mem => ?_⟩
    · refine List.forall_mem_cons.mpr ⟨⟨Nat.le_refl _, ?_⟩, fun item mem => ?_⟩
      · rw [clear]
        nofun
      obtain ⟨follows, errors⟩ := behindNext item mem
      exact ⟨eachNext.forward.trans follows,
        fun error isError => eachNext.forward.trans (errors error isError)⟩
    · refine List.forall_mem_cons.mpr ⟨⟨?_, nofun⟩, fun other => across item mem other⟩
      exact (across item mem next List.mem_cons_self).token

/-- An error node starts where the first token in it does. -/
theorem start_spanBetween {items : Array Item} {start stop : ℕ} {first : Item}
    (here : items[start]? = some first) (lt : start < stop) (le : stop ≤ items.size) :
    (Grammar.spanBetween items start stop).start = first.token.span.start := by
  have inside : stop - 1 < items.size := by omega
  rw [Grammar.spanBetween, here, Array.getElem?_eq_getElem inside]
  dsimp only
  rw [if_pos lt]

/-- The front of an array up to an item in a list of its items. -/
theorem toList_extract_front {α : Type} {items : Array α} {front behind : List α}
    (parts : items.toList = front ++ behind) : (items.extract 0 front.length).toList = front := by
  rw [Array.toList_extract, parts, List.extract_eq_take_drop]
  simp

/-- The back of an array from an item on in a list of its items. -/
theorem toList_extract_behind {α : Type} {items : Array α} {front behind : List α}
    (parts : items.toList = front ++ behind) :
    (items.extract front.length items.size).toList = behind := by
  rw [Array.toList_extract, ← Array.length_toList, parts, List.extract_eq_take_drop]
  simp

/-- What stands behind so many items is left when no more than these are dropped. -/
theorem mem_drop_append {α : Type} {front behind : List α} {item : α} {count : ℕ}
    (le : count ≤ front.length) (mem : item ∈ behind) : item ∈ (front ++ behind).drop count := by
  rw [List.drop_append_of_le_length le]
  exact List.mem_append_right _ mem

/-- Setting tokens aside in front of one without errors leaves everything in order. -/
theorem Draft.IsInOrder.setAsideBefore {draft : Draft} (inOrder : draft.IsInOrder)
    {front middle behind : List Item} {first next : Item}
    (parts : draft.items.toList = front ++ first :: (middle ++ next :: behind))
    (clear : ∀ item ∈ behind, item.errors = []) {token : Token}
    (before : token.before = next.token.before) (span : token.span = next.token.span) {error : Node}
    (fault : error.IsFault) (start : error.span.start = first.token.span.start) {supplied : Bool}
    {items : Array Item} (after : items.toList = front ++ ⟨token, [error], supplied⟩ :: behind)
    (price : ℕ) : Draft.IsInOrder ⟨items, draft.trailing, price, front.length + 1⟩ := by
  obtain ⟨inItems, -, trailing, last, below, above⟩ := inOrder
  rw [parts] at inItems below
  refine ⟨?_, ?_, trailing, last, ?_, above⟩
  all_goals rw [after]
  · exact inItems.setAside before span fault start supplied
  · -- The goal is behind the token that has the error node in front of it.
    intro item mem
    exact clear item (by simpa using mem)
  · obtain ⟨belowFront, belowRest⟩ := List.forall_mem_append.mp below
    obtain ⟨-, belowNext⟩ := List.forall_mem_append.mp (List.forall_mem_cons.mp belowRest).2
    obtain ⟨belowItem, belowBehind⟩ := List.forall_mem_cons.mp belowNext
    refine List.forall_mem_append.mpr ⟨belowFront, List.forall_mem_cons.mpr ⟨?_, belowBehind⟩⟩
    rw [← span] at belowItem
    exact belowItem

/-- Setting tokens aside up to the end of the text leaves everything in order. -/
theorem Draft.IsInOrder.setAsideToEnd {draft : Draft} (inOrder : draft.IsInOrder)
    {front behind : List Item} {first : Item}
    (parts : draft.items.toList = front ++ first :: behind) {error : Node} (fault : error.IsFault)
    (start : error.span.start = first.token.span.start) {items : Array Item}
    (after : items.toList = front) (price : ℕ) :
    Draft.IsInOrder ⟨items, error :: draft.trailing, price, items.size + 1⟩ := by
  obtain ⟨inItems, -, trailing, last, below, above⟩ := inOrder
  rw [parts] at inItems below
  have isMember : first ∈ front ++ first :: behind := List.mem_append_right _ List.mem_cons_self
  obtain ⟨orderedFront, -, across⟩ := List.pairwise_append.mp inItems.ordered
  have firstBelow : first.token.span.start ≤ last := below first isMember
  refine ⟨⟨?_, ?_⟩, ?_, ?_, first.token.span.start, ?_, ?_⟩
  · rw [after]
    exact fun item mem => inItems.each item (List.mem_append_left _ mem)
  · rw [after]
    exact orderedFront
  · dsimp only
    rw [← Array.length_toList, List.drop_eq_nil_of_le (Nat.le_succ _)]
    nofun
  · rw [List.map_cons, List.pairwise_cons]
    refine ⟨List.forall_mem_map.mpr fun other mem => ?_, trailing⟩
    exact start.trans_le (firstBelow.trans (above other mem).2)
  · rw [after]
    intro item mem
    exact (across item mem first List.mem_cons_self).token.trans
      (inItems.each first isMember).forward
  · refine List.forall_mem_cons.mpr ⟨⟨fault, start.ge⟩, fun other mem => ?_⟩
    exact ⟨(above other mem).1, firstBelow.trans (above other mem).2⟩

/-- Setting tokens aside leaves everything in order where what has been passed so far has reached
the goal. -/
theorem Draft.IsInOrder.setAside {draft : Draft} (inOrder : draft.IsInOrder) (source : Source)
    {failing next : ℕ} {cut : Cut} (reached : draft.goal ≤ failing) (le : failing ≤ next)
    (lt : cut.first < next) (inside : next ≤ draft.items.size) :
    (draft.setAside source failing cut next).IsInOrder := by
  obtain ⟨index, trees, nodes⟩ := cut
  obtain ⟨first, isFirst⟩ : ∃ first, draft.items[index]? = some first :=
    ⟨_, Array.getElem?_eq_getElem (lt.trans_le inside)⟩
  have start := start_spanBetween isFirst lt inside
  rw [← Array.getElem?_toList] at isFirst
  rw [Draft.setAside]
  dsimp only at lt ⊢
  split
  · next item isNext =>
    obtain ⟨upTo, behind, parts, rfl⟩ := exists_parts (Array.getElem?_toList ▸ isNext)
    rw [parts, List.getElem?_append_left lt] at isFirst
    obtain ⟨front, middle, rfl, rfl⟩ := exists_parts isFirst
    have clear : ∀ other ∈ item :: behind, other.errors = [] := fun other mem =>
      inOrder.fresh other (parts ▸ mem_drop_append (reached.trans le) mem)
    obtain ⟨clearItem, clearBehind⟩ := List.forall_mem_cons.mp clear
    have partsFront : draft.items.toList = front ++ (first :: (middle ++ item :: behind)) := by
      rw [parts, List.append_assoc, List.cons_append]
    have partsBehind : draft.items.toList = (front ++ first :: middle ++ [item]) ++ behind := by
      rw [parts, List.append_assoc, List.append_assoc, List.singleton_append, List.append_assoc]
    have back := toList_extract_behind partsBehind
    rw [List.length_append, List.length_singleton] at back
    have after {token : Token} {error : Node} :
        ((draft.items.extract 0 front.length).push ⟨token, error :: item.errors, item.supplied⟩ ++
          draft.items.extract ((front ++ first :: middle).length + 1) draft.items.size).toList =
            front ++ ⟨token, [error], item.supplied⟩ :: behind := by
      rw [Array.toList_append, Array.toList_push, toList_extract_front partsFront, back, clearItem,
        List.append_assoc, List.singleton_append]
    refine inOrder.setAsideBefore partsFront clearBehind ?_ ?_ ?_ ?_ after _
    · rw [apply_ite Token.before, Token.before_asIdentifier, ite_self]
    · rw [apply_ite Token.span, Token.span_asIdentifier, ite_self]
    · exact Or.inl rfl
    · exact start
  · obtain ⟨front, behind, parts, rfl⟩ := exists_parts isFirst
    refine inOrder.setAsideToEnd parts ?_ ?_ (toList_extract_front parts) _
    · exact Or.inl rfl
    · exact start

/-- Supplying a token leaves everything in order where what has been passed so far has reached the
goal. -/
theorem Draft.IsInOrder.supply {draft : Draft} (inOrder : draft.IsInOrder) {failing : ℕ}
    (reached : draft.goal ≤ failing) (inside : failing < draft.items.size) (kind : TokenKind)
    (text : String) : (draft.supply failing kind text).IsInOrder := by
  obtain ⟨items, fresh, trailing, last, below, above⟩ := inOrder
  have isNext := Array.getElem?_eq_getElem inside
  generalize draft.items[failing] = next at isNext
  obtain ⟨front, behind, parts, rfl⟩ := exists_parts (Array.getElem?_toList ▸ isNext)
  have supplied : (draft.supply front.length kind text).items.toList =
      front ++ ⟨⟨kind, text, next.token.before, next.token.before, next.token.before, false⟩, [],
        true⟩ :: next :: behind := by
    rw [Draft.supply]
    dsimp only
    rw [isNext, Array.toList_append, Array.toList_push, toList_extract_front parts,
      toList_extract_behind parts, List.append_assoc]
    rfl
  rw [parts] at items fresh below
  have clear : next.errors = [] := fresh next (mem_drop_append reached List.mem_cons_self)
  refine ⟨?_, ?_, trailing, last, ?_, above⟩
  · rw [supplied]
    exact items.supply clear kind text false
  · -- The goal is behind the token in front of which the new one stands.
    intro item mem
    rw [supplied] at mem
    have isBehind : item ∈ behind := by simpa [Draft.supply] using mem
    exact fresh item (mem_drop_append reached (List.mem_cons_of_mem _ isBehind))
  · rw [supplied]
    obtain ⟨belowFront, belowNext⟩ := List.forall_mem_append.mp below
    refine List.forall_mem_append.mpr ⟨belowFront, List.forall_mem_cons.mpr ⟨?_, belowNext⟩⟩
    have eachNext := items.each next (List.mem_append_right _ List.mem_cons_self)
    exact eachNext.forward.trans (belowNext next List.mem_cons_self)

/-- Tokens are set aside up to the failing one or further, within the text. -/
theorem exists_of_mem_setAsides {source : Source} {draft other : Draft} {stuck : Stuck}
    (mem : other ∈ draft.setAsides source stuck) :
    ∃ cut : Cut, ∃ next, stuck.reach ≤ next ∧ cut.first < next ∧ next ≤ draft.items.size ∧
      other = draft.setAside source stuck.reach cut next := by
  obtain ⟨cut, -, mem⟩ := List.mem_flatMap.mp mem
  obtain ⟨next, isNext, rfl⟩ := List.mem_map.mp mem
  obtain ⟨isNext, lt⟩ := List.mem_filter.mp isNext
  have bounds : stuck.reach ≤ next ∧ next ≤ draft.items.size := by
    rcases List.mem_append.mp isNext with among | atEnd
    · obtain ⟨isNext, inside⟩ := List.mem_filter.mp among
      obtain ⟨count, -, rfl⟩ := List.mem_map.mp isNext
      have inside := (of_decide_eq_true inside).le.trans (Nat.min_le_right _ _)
      exact ⟨Nat.le_add_right _ _, inside⟩
    · split at atEnd
      · next unbroken =>
        obtain rfl := List.mem_singleton.mp atEnd
        exact ⟨unbroken ▸ Nat.le_add_right _ _, Nat.le_refl _⟩
      · exact absurd atEnd List.not_mem_nil
  exact ⟨cut, next, bounds.1, of_decide_eq_true lt, bounds.2, rfl⟩

/-- One more repair leaves everything in order where the goal of the last one has been reached. -/
theorem Draft.IsInOrder.repairs {draft : Draft} (inOrder : draft.IsInOrder) (source : Source)
    {stuck : Stuck} (reached : draft.goal ≤ stuck.reach) :
    ∀ other ∈ draft.repairs source stuck, other.IsInOrder := by
  intro other mem
  rw [Draft.repairs, List.mem_mergeSort, List.mem_append] at mem
  rcases mem with aside | supplied
  · obtain ⟨cut, next, le, lt, inside, rfl⟩ := exists_of_mem_setAsides aside
    exact inOrder.setAside source reached le lt inside
  · rw [Draft.supplies] at supplied
    split at supplied
    · next inside =>
      obtain ⟨terminal, -, supply⟩ := List.mem_filterMap.mp supplied
      obtain ⟨⟨kind, text⟩, -, rfl⟩ := Option.map_eq_some_iff.mp supply
      exact inOrder.supply reached inside kind text
    · exact absurd supplied List.not_mem_nil

/-! ## The tree of a text -/

/-- Where a token with the errors in front of it begins. -/
def Item.front (item : Item) : ℕ :=
  match item.errors with
  | [] => item.token.before.start
  | error :: _ => error.span.start

/-- What precedes an item ends in front of where it begins. -/
theorem Item.Precedes.le_front {a b : Item} (precedes : a.Precedes b) :
    a.token.span.start ≤ b.front := by
  rw [Item.front]
  split
  · exact precedes.token
  · next error rest errors =>
    exact precedes.errors error (errors ▸ List.mem_cons_self)

/-- A token stands behind where it begins with the errors in front of it. -/
theorem Item.IsInOrder.front_le {item : Item} (inOrder : item.IsInOrder) :
    item.front ≤ item.token.span.start := by
  rw [Item.front]
  split
  · exact inOrder.forward
  · next error rest errors =>
    exact (inOrder.errors error (errors ▸ List.mem_cons_self)).2

/-- The positions between the tokens of a draft, with one behind them. -/
def Draft.frontAt (draft : Draft) (last position : ℕ) : ℕ :=
  draft.items[position]?.elim last Item.front

/-- At the position of a token it is where the token begins. -/
theorem Draft.frontAt_of_getElem? {draft : Draft} {last position : ℕ} {item : Item}
    (here : draft.items[position]? = some item) : draft.frontAt last position = item.front := by
  rw [frontAt, here]
  rfl

/-- A token of a draft in order is in order. -/
theorem Draft.IsInOrder.item {draft : Draft} (inOrder : draft.IsInOrder) {position : ℕ}
    {item : Item} (here : draft.items[position]? = some item) : item.IsInOrder :=
  inOrder.items.each item (List.mem_of_getElem? (Array.getElem?_toList ▸ here))

/-- None of these positions is behind the last one. -/
theorem Draft.IsInOrder.frontAt_le {draft : Draft} (inOrder : draft.IsInOrder) {last : ℕ}
    (below : ∀ item ∈ draft.items.toList, item.token.span.start ≤ last) (position : ℕ) :
    draft.frontAt last position ≤ last := by
  cases here : draft.items[position]? with
  | none =>
    rw [frontAt, here]
    exact Nat.le_refl last
  | some item =>
    rw [frontAt_of_getElem? here]
    have mem := List.mem_of_getElem? (Array.getElem?_toList ▸ here)
    exact (inOrder.item here).front_le.trans (below item mem)

/-- They are the positions from which on the tokens lie. -/
theorem Draft.IsInOrder.isFront {draft : Draft} (inOrder : draft.IsInOrder) {last : ℕ}
    (below : ∀ item ∈ draft.items.toList, item.token.span.start ≤ last) :
    Grammar.IsFront draft.items (draft.frontAt last) := by
  refine ⟨fun position item here error mem => ?_, fun position item here => ?_,
    fun position item here => ?_⟩
  · have own := inOrder.item here
    obtain ⟨only, errors⟩ : ∃ only, item.errors = [only] :=
      List.length_eq_one_iff.mp (own.single.antisymm (List.length_pos_of_mem mem))
    obtain rfl := List.mem_singleton.mp (errors ▸ mem)
    refine ⟨(own.errors error mem).1, ?_⟩
    rw [frontAt_of_getElem? here, Item.front, errors]
  · rw [frontAt_of_getElem? here]
    exact (inOrder.item here).front_le
  · cases next : draft.items[position + 1]? with
    | none =>
      rw [frontAt, next]
      exact below item (List.mem_of_getElem? (Array.getElem?_toList ▸ here))
    | some other =>
      rw [frontAt_of_getElem? next]
      obtain ⟨inside, rfl⟩ := Array.getElem?_eq_some_iff.mp here
      obtain ⟨insideNext, rfl⟩ := Array.getElem?_eq_some_iff.mp next
      have precedes := List.pairwise_iff_getElem.mp inOrder.items.ordered position (position + 1)
        inside insideNext (Nat.lt_succ_self _)
      exact precedes.le_front

/-- A root with the errors around it among its children has their faults, unless it is one. -/
theorem faultStarts_enclose {nodes trailing : List Node} {root : Node}
    (encloses : enclose nodes trailing = some root) :
    root.faultStarts = [root.span.start] ∨
      root.faultStarts = (nodes ++ trailing).flatMap Node.faultStarts := by
  rw [enclose] at encloses
  split at encloses
  · next label role span supplied children isLast =>
    obtain rfl := Option.some.inj encloses
    obtain ⟨front, rfl⟩ := List.getLast?_eq_some_iff.mp isLast
    by_cases fault : (Node.mk label role span supplied children).IsFault
    · exact Or.inl (Node.faultStarts_of_isFault fault)
    · right
      rw [List.dropLast_concat]
      have whole : ¬ (Node.mk label role span supplied (front ++ children ++ trailing)).IsFault :=
        fault
      rw [Node.faultStarts_of_not_isFault whole]
      simp only [List.flatMap_append, List.flatMap_singleton]
      rw [Node.faultStarts_of_not_isFault fault, Node.children, List.flatMap_append,
        List.flatMap_append]
      rfl
  · exact nomatch encloses

/-- What a text in order is read as has its faults in order. -/
theorem Draft.IsInOrder.pairwise_faultStarts {draft : Draft} (inOrder : draft.IsInOrder)
    {stop : ℕ} {nodes : List Node} {root : Node}
    (yields : draft.outcome.result = some (stop, nodes))
    (encloses : enclose nodes draft.trailing = some root) :
    root.faultStarts.Pairwise (· ≤ ·) := by
  obtain ⟨last, below, above⟩ := inOrder.last
  have isFront := inOrder.isFront below
  have read := Grammar.ascends_read isClean_rules isFront _ _ rfl _ _ stop nodes yields
  have ends := inOrder.frontAt_le below stop
  rcases faultStarts_enclose encloses with own | inside
  · rw [own]
    exact List.pairwise_singleton _ _
  · rw [inside, List.flatMap_append,
      flatMap_faultStarts_of_isFault fun error mem => (above error mem).1]
    refine List.pairwise_append.mpr ⟨read.ordered, inOrder.trailing, fun start mem => ?_⟩
    refine List.forall_mem_map.mpr fun error isError => ?_
    exact (read.upper start mem).trans (ends.trans (above error isError).2)

/-- The tree that the search finds has its faults in order. -/
theorem pairwise_faultStarts_of_search {source : Source} {attempts : ℕ} {drafts : List Draft}
    {root : Node} (inOrder : ∀ draft ∈ drafts, draft.IsInOrder)
    (found : search source attempts drafts = some root) : root.faultStarts.Pairwise (· ≤ ·) := by
  fun_induction search source attempts drafts with
  | case1 => exact nomatch found
  | case2 => exact nomatch found
  | case3 attempts draft rest outcome stop nodes yields =>
    exact (inOrder draft List.mem_cons_self).pairwise_faultStarts yields found
  | case4 attempts draft rest outcome _ _ ih =>
    exact ih (fun other mem => inOrder other (List.mem_cons_of_mem draft mem)) found
  | case5 attempts draft rest outcome _ reached ih =>
    obtain ⟨own, others⟩ := List.forall_mem_cons.mp inOrder
    refine ih (fun other mem => ?_) found
    rcases List.mem_merge.mp mem with known | repaired
    · exact others other known
    · exact own.repairs source (Nat.le_of_not_lt reached) other repaired

/-- The tree that is made of tokens in order has its faults in order. -/
theorem pairwise_faultStarts_treeOf (source : Source) {tokens : Array Token}
    (inOrder : Token.AreInOrder tokens.toList) :
    (treeOf source tokens).faultStarts.Pairwise (· ≤ ·) := by
  rw [treeOf]
  split
  · next root found =>
    refine pairwise_faultStarts_of_search (List.forall_mem_singleton.mpr ?_) found
    exact inOrder_ofTokens inOrder
  · next none =>
    rw [Node.faultStarts_of_isFault (Or.inl rfl)]
    exact List.pairwise_singleton _ _

/-- Merging trees with ones that have no faults leaves their faults as they were. -/
theorem flatMap_faultStarts_mergeByStart {nodes others : List Node}
    (clear : ∀ other ∈ others, other.faultStarts = []) :
    (mergeByStart nodes others).flatMap Node.faultStarts = nodes.flatMap Node.faultStarts := by
  fun_induction mergeByStart nodes others with
  | case1 => exact List.flatMap_eq_nil_iff.mpr clear
  | case2 => rfl
  | case3 node nodes other others _ ih => rw [List.flatMap_cons, ih clear, List.flatMap_cons]
  | case4 node nodes other others _ ih =>
    obtain ⟨own, rest⟩ := List.forall_mem_cons.mp clear
    rw [List.flatMap_cons, own, List.nil_append, ih rest]

mutual
/-- A tree has the same faults with remarks in it. -/
theorem faultStarts_attachRemarks (remarks : List Remark) : (node : Node) →
    (attachRemarks remarks node).faultStarts = node.faultStarts
  | .mk label role span supplied children => by
    have inside := flatMap_faultStarts_attachRemarksAll remarks children
    rw [attachRemarks]
    dsimp only
    split
    · refine faultStarts_congr ((flatMap_faultStarts_mergeByStart ?_).trans inside)
      refine List.forall_mem_map.mpr fun remark _ => ?_
      rfl
    · exact faultStarts_congr inside

/-- Trees have the same faults with remarks in them. -/
theorem flatMap_faultStarts_attachRemarksAll (remarks : List Remark) : (nodes : List Node) →
    (attachRemarksAll remarks nodes).flatMap Node.faultStarts = nodes.flatMap Node.faultStarts
  | [] => by rw [attachRemarksAll]
  | node :: rest => by
    rw [attachRemarksAll, List.flatMap_cons, List.flatMap_cons, faultStarts_attachRemarks,
      flatMap_faultStarts_attachRemarksAll]
end

/-- The outermost faults of the tree of a text start further and further on in the text. -/
theorem pairwise_faultStarts_parse (source : Source) :
    (parse source).faultStarts.Pairwise (· ≤ ·) := by
  rw [parse, faultStarts_attachRemarks]
  exact pairwise_faultStarts_treeOf source (inOrder_lex source)

end TypedMvc.CSharp
