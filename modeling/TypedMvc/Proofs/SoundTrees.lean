import TypedMvc.CSharp.Parse
import TypedMvc.Proofs.CountedLines
import TypedMvc.Proofs.DeclaredTypes

/-!
# Trees that say where they are

A tree of a text is sound if the stretch of every node in it is counted and only tokens are supplied
(`Node.IsSound`). Its stretches come from tokens, whose own are counted (`areCounted_lex`), so
soundness is carried through all that makes a tree. Reading yields sound trees only, and what it had
read where it got stuck is sound as well (`isSound_read`). Repairs are built from this, and put
error nodes over tokens and new tokens at the ends of others (`Draft.IsSound.setAside`,
`Draft.IsSound.supply`), so the tree that the search finds is sound, and stays so when remarks are
attached (`isSound_parse`).
-/

namespace TypedMvc.CSharp

variable {source : Source}

/-! ## Reading -/

/-- A tree of a text: the stretch of each node is counted, and only tokens are supplied. -/
inductive Node.IsSound (source : Source) : Node → Prop where
  /-- A node that is sound itself, with sound children. -/
  | mk {label : Label} {role : Option Role} {span : Span} {supplied : Bool} {children : List Node}
      (counted : span.IsCounted source) (token : supplied = true → ∃ text, label = .token text)
      (inside : ∀ child ∈ children, child.IsSound source) :
      IsSound source (.mk label role span supplied children)

/-- Trees of a text. -/
def AreSound (source : Source) (nodes : List Node) : Prop := ∀ node ∈ nodes, node.IsSound source

/-- A token as the grammar sees it, with counted stretches and sound errors. -/
structure Item.IsSound (source : Source) (item : Item) : Prop where
  /-- The stretches of the token are counted. -/
  token : item.token.IsCounted source
  /-- The errors in front of it are sound. -/
  errors : AreSound source item.errors

/-- A failed attempt that has read sound trees only. -/
def Stuck.IsSound (source : Source) (stuck : Stuck) : Prop :=
  ∀ nodes ∈ stuck.readings (), AreSound source nodes

/-- A match that has read sound trees only, up to its end and on the best failed attempt. -/
structure Match.IsSound (source : Source) (outcome : Match) : Prop where
  /-- What the match yields is sound. -/
  result : ∀ stop nodes, outcome.result = some (stop, nodes) → AreSound source nodes
  /-- What had been read where it got stuck is sound. -/
  stuck : outcome.stuck.IsSound source

/-- No trees are sound. -/
theorem areSound_nil : AreSound source [] := fun _ mem => absurd mem List.not_mem_nil

/-- Sound trees next to sound trees are sound. -/
theorem AreSound.append {nodes more : List Node} (sound : AreSound source nodes)
    (others : AreSound source more) : AreSound source (nodes ++ more) :=
  List.forall_mem_append.mpr ⟨sound, others⟩

/-- Either of two lists of sound trees is sound. -/
theorem areSound_ite {p : Prop} [Decidable p] {nodes others : List Node}
    (sound : AreSound source nodes) (soundOthers : AreSound source others) :
    AreSound source (if p then nodes else others) := by
  split
  · exact sound
  · exact soundOthers

/-- A sound tree is sound in another role. -/
theorem Node.IsSound.withRole {node : Node} (sound : node.IsSound source) (role : Role) :
    (node.withRole role).IsSound source := by
  cases sound with
  | mk counted token inside => exact .mk counted token inside

/-- An attempt that has read nothing is sound. -/
theorem isSound_wanting (position : ℕ) (wanted : List (Terminal × Bool)) :
    (Stuck.wanting position wanted).IsSound source := by
  intro nodes mem
  obtain rfl := List.mem_singleton.mp mem
  exact areSound_nil

/-- The better of two sound attempts is sound. -/
theorem Stuck.IsSound.best {a b : Stuck} (soundA : a.IsSound source) (soundB : b.IsSound source) :
    (a.best b).IsSound source := by
  rw [Stuck.best]
  repeat' split
  · exact soundB
  · exact soundA
  · exact soundA
  · exact soundB
  · exact List.forall_mem_append.mpr ⟨soundA, soundB⟩

/-- A sound attempt behind sound trees is sound. -/
theorem Stuck.IsSound.map {stuck : Stuck} (sound : stuck.IsSound source) {nodes : List Node}
    (others : AreSound source nodes) (reach : ℕ) (wanted : List (Terminal × Bool)) :
    Stuck.IsSound source
      ⟨reach, fun _ => (stuck.readings ()).map (nodes ++ ·), wanted⟩ := by
  intro reading mem
  obtain ⟨own, isReading, rfl⟩ := List.mem_map.mp mem
  exact others.append (sound own isReading)

/-- A sound attempt behind sound trees is sound. -/
theorem Stuck.IsSound.behind {stuck : Stuck} (sound : stuck.IsSound source) {nodes : List Node}
    (others : AreSound source nodes) : (stuck.behind nodes).IsSound source := by
  rw [Stuck.behind]
  split
  · exact sound
  · exact sound.map others _ _

/-- A match that yields sound trees. -/
theorem Match.isSound_some {stop : ℕ} {nodes : List Node} {stuck : Stuck}
    (yields : AreSound source nodes) (sound : stuck.IsSound source) :
    Match.IsSound source ⟨some (stop, nodes), stuck⟩ := by
  refine ⟨fun _ _ same => ?_, sound⟩
  obtain ⟨-, rfl⟩ := Prod.mk.inj (Option.some.inj same)
  exact yields

/-- A match that fails. -/
theorem Match.isSound_none {stuck : Stuck} (sound : stuck.IsSound source) :
    Match.IsSound source ⟨none, stuck⟩ :=
  ⟨fun _ _ same => (nomatch same), sound⟩

namespace Grammar

variable {ρ : Type} {items : Array Item}

/-- The stretch between two tokens of a text is counted. -/
theorem isCounted_spanBetween (sound : ∀ item ∈ items, item.IsSound source) (start stop : ℕ) :
    (spanBetween items start stop).IsCounted source := by
  rw [spanBetween]
  split
  · next first last isFirst isLast =>
    have counted := (sound first (Array.mem_of_getElem? isFirst)).token.span
    split
    · exact counted
    · exact counted
  · next last isLast _ => exact (sound last (Array.mem_of_getElem? isLast)).token.behind
  · exact isCounted_start

/-- The errors in front of a token are sound. -/
theorem areSound_errorsAt (sound : ∀ item ∈ items, item.IsSound source) (position : ℕ) :
    AreSound source (errorsAt items position) := by
  rw [errorsAt]
  split
  · next item isItem => exact (sound item (Array.mem_of_getElem? isItem)).errors
  · exact areSound_nil

/-- Repeating a step that reads sound trees reads sound trees. -/
theorem isSound_iterate {step : ℕ → Match} (sound : ∀ position, (step position).IsSound source)
    (limit position : ℕ) {found : List (List Node)} {stuck : Stuck}
    (known : ∀ nodes ∈ found, AreSound source nodes) (soundStuck : stuck.IsSound source) :
    (iterate step limit position found stuck).IsSound source := by
  have gathered {found : List (List Node)} (known : ∀ nodes ∈ found, AreSound source nodes) :
      AreSound source found.reverse.flatten := by
    intro node mem
    obtain ⟨nodes, isFound, mem⟩ := List.mem_flatten.mp mem
    exact known nodes (List.mem_reverse.mp isFound) node mem
  induction limit generalizing position found stuck with
  | zero => exact Match.isSound_some (gathered known) soundStuck
  | succ limit ih =>
    rw [iterate]
    have one := sound position
    have further := soundStuck.best (one.stuck.map (gathered known) (step position).stuck.reach
      (step position).stuck.wanted)
    split
    · next next nodes yields =>
      split
      · exact Match.isSound_some (gathered known) further
      · exact ih _ (List.forall_mem_cons.mpr ⟨one.result _ _ yields, known⟩) further
    · exact Match.isSound_some (gathered known) further

/-- A token with the errors in front of it: its own stretch is counted, and so are theirs. -/
theorem isSound_terminal (language : Language ρ) (sound : ∀ item ∈ items, item.IsSound source)
    (fuel : ℕ) (t : Terminal) (suppliable : Bool) (position : ℕ) (quiet : Bool) :
    (read language items fuel (.terminal t suppliable) position quiet).IsSound source := by
  rw [read]
  split
  · next item isItem =>
    have soundItem := sound item (Array.mem_of_getElem? isItem)
    split
    · refine Match.isSound_some (AreSound.append ?_ ?_) (isSound_wanting _ _)
      · exact areSound_ite areSound_nil soundItem.errors
      · refine areSound_ite (List.forall_mem_singleton.mpr ?_) areSound_nil
        exact .mk soundItem.token.span (fun _ => ⟨item.token.text, rfl⟩) areSound_nil
    · exact Match.isSound_none (isSound_wanting _ _)
  · split
    · exact Match.isSound_some areSound_nil (isSound_wanting _ _)
    · exact Match.isSound_none (isSound_wanting _ _)

section

variable {language : Language ρ} {fuel position : ℕ} {quiet : Bool}

/-- Where the second grammar gets stuck, the first has read sound trees. -/
theorem isSound_seq {first second : Grammar ρ}
    (a : (read language items fuel first position quiet).IsSound source)
    (b : ∀ middle quiet, (read language items fuel second middle quiet).IsSound source) :
    (read language items fuel (.seq first second) position quiet).IsSound source := by
  rw [read]
  dsimp only
  split
  · exact a
  · next middle nodes yields =>
    have behind := b middle (quiet && middle == position)
    have nodesSound := a.result _ _ yields
    have stuck := a.stuck.best (behind.stuck.behind nodesSound)
    split
    · exact Match.isSound_none stuck
    · next stop more yieldsMore =>
      exact Match.isSound_some
        (areSound_ite nodesSound (nodesSound.append (behind.result _ _ yieldsMore))) stuck

/-- A node reaches from one token to another. -/
theorem isSound_node (sound : ∀ item ∈ items, item.IsSound source) {label : Label}
    {body : Grammar ρ}
    (inner : (read language items fuel body position true).IsSound source) :
    (read language items fuel (.node label body) position quiet).IsSound source := by
  have errors : AreSound source (if quiet then [] else errorsAt items position) :=
    areSound_ite areSound_nil (areSound_errorsAt sound position)
  rw [read]
  dsimp only
  split
  · next stop nodes yields =>
    refine Match.isSound_some (errors.append (List.forall_mem_singleton.mpr ?_))
      (inner.stuck.behind errors)
    exact .mk (isCounted_spanBetween sound position stop) (absurd · Bool.false_ne_true)
      (inner.result _ _ yields)
  · exact Match.isSound_none (inner.stuck.behind errors)

/-- What is read stays sound in a role. -/
theorem isSound_role {part : Role} {body : Grammar ρ}
    (inner : (read language items fuel body position quiet).IsSound source) :
    (read language items fuel (.role part body) position quiet).IsSound source := by
  rw [read]
  split
  · next stop nodes yields =>
    refine Match.isSound_some (List.forall_mem_map.mpr fun node mem => ?_) inner.stuck
    have soundNode := inner.result _ _ yields node mem
    split
    · exact soundNode
    · exact soundNode.withRole part
  · exact inner

end

/-- Reading the tokens of a text yields sound trees only. -/
theorem isSound_read (language : Language ρ) (sound : ∀ item ∈ items, item.IsSound source)
    (fuel : ℕ) : (g : Grammar ρ) → (position : ℕ) → (quiet : Bool) →
      (read language items fuel g position quiet).IsSound source
  | .empty, position, quiet => by
    rw [read]
    exact Match.isSound_some areSound_nil (isSound_wanting _ _)
  | .terminal t suppliable, position, quiet =>
    isSound_terminal language sound fuel t suppliable position quiet
  | .seq first second, position, quiet =>
    isSound_seq (isSound_read language sound fuel first position quiet)
      (isSound_read language sound fuel second)
  | .choice first second, position, quiet => by
    have a := isSound_read language sound fuel first position quiet
    have b := isSound_read language sound fuel second position quiet
    rw [read]
    split
    · exact a
    · exact ⟨b.result, a.stuck.best b.stuck⟩
  | .many body, position, quiet => by
    rw [read]
    exact isSound_iterate (fun p => isSound_read language sound fuel body p _) _ _
      (fun _ mem => absurd mem List.not_mem_nil) (isSound_wanting _ _)
  -- What is only looked at leaves no nodes.
  | .ahead body, position, quiet => by
    rw [read]
    split
    · exact Match.isSound_some areSound_nil (isSound_wanting _ _)
    · exact Match.isSound_none (isSound_wanting _ _)
  | .notAhead body, position, quiet => by
    rw [read]
    split
    · exact Match.isSound_none (isSound_wanting _ _)
    · exact Match.isSound_some areSound_nil (isSound_wanting _ _)
  -- A rule costs fuel, as its body is no part of it.
  | .rule name, position, quiet => by
    cases fuel with
    | zero =>
      rw [read]
      exact Match.isSound_none (isSound_wanting _ _)
    | succ fuel =>
      rw [read]
      exact isSound_read language sound fuel (language.rules name) position quiet
  | .node _ body, position, quiet =>
    isSound_node sound (isSound_read language sound fuel body position true)
  | .role _ body, position, quiet =>
    isSound_role (isSound_read language sound fuel body position quiet)
termination_by g => (fuel, sizeOf g)

end Grammar

/-! ## Repairing -/

/-- A text after some repairs, with counted stretches and sound errors. -/
structure Draft.IsSound (source : Source) (draft : Draft) : Prop where
  /-- The tokens and the errors in front of them. -/
  items : ∀ item ∈ draft.items, item.IsSound source
  /-- The errors behind the last token. -/
  trailing : AreSound source draft.trailing

/-- What is cut out of an array is in it. -/
theorem mem_of_mem_extract {α : Type} {items : Array α} {start stop : ℕ} {item : α}
    (mem : item ∈ items.extract start stop) : item ∈ items := by
  rw [← Array.mem_toList_iff, Array.toList_extract, List.extract_eq_take_drop] at mem
  exact Array.mem_toList_iff.mp (List.mem_of_mem_drop (List.mem_of_mem_take mem))

/-- What is left of a list without repetitions is in it. -/
theorem mem_of_mem_eraseDupsBy {α : Type} {same : α → α → Bool} {items : List α} {item : α}
    (mem : item ∈ items.eraseDupsBy same) : item ∈ items := by
  have inLoop (items kept : List α) (mem : item ∈ List.eraseDupsBy.loop same items kept) :
      item ∈ items ∨ item ∈ kept := by
    induction items generalizing kept with
    | nil => exact Or.inr (List.mem_reverse.mp mem)
    | cons first rest ih =>
      rw [List.eraseDupsBy.loop] at mem
      split at mem
      · exact (ih kept mem).imp_left (List.mem_cons_of_mem first)
      · rcases ih (first :: kept) mem with inRest | inKept
        · exact Or.inl (List.mem_cons_of_mem first inRest)
        · rcases List.mem_cons.mp inKept with rfl | inKept
          · exact Or.inl List.mem_cons_self
          · exact Or.inr inKept
  exact (inLoop items [] mem).resolve_right List.not_mem_nil

/-- A text without repairs. -/
theorem isSound_ofTokens {tokens : Array Token}
    (counted : ∀ token ∈ tokens, token.IsCounted source) :
    (Draft.ofTokens tokens).IsSound source := by
  refine ⟨fun item mem => ?_, areSound_nil⟩
  obtain ⟨token, isToken, rfl⟩ := Array.mem_map.mp mem
  exact ⟨counted token isToken, areSound_nil⟩

/-- Matching a draft reads sound trees. -/
theorem Draft.IsSound.outcome {draft : Draft} (sound : draft.IsSound source) :
    draft.outcome.IsSound source :=
  Grammar.isSound_read csharp sound.items _ _ _ _

/-- A sound tree with sound trees around its children is sound. -/
theorem isSound_of_enclose {nodes trailing : List Node} {root : Node}
    (sound : AreSound source nodes) (behind : AreSound source trailing)
    (encloses : enclose nodes trailing = some root) : root.IsSound source := by
  rw [enclose] at encloses
  split at encloses
  · next label role span supplied children isLast =>
    obtain rfl := Option.some.inj encloses
    cases sound _ (List.mem_of_getLast? isLast) with
    | mk counted token inside =>
      have front : AreSound source nodes.dropLast :=
        fun node mem => sound node ((List.dropLast_sublist nodes).subset mem)
      exact .mk counted token ((front.append inside).append behind)
  · exact nomatch encloses

/-- The trees between a cut and the failing token are sound. -/
theorem areSound_cutsBefore {items : Array Item} {limit index : ℕ} {nodes : List Node}
    {start : Cut} (sound : AreSound source nodes) (soundStart : AreSound source start.nodes) :
    ∀ cut ∈ cutsBefore items limit index nodes start, AreSound source cut.nodes := by
  fun_induction cutsBefore items limit index nodes start with
  | case1 => exact fun _ mem => absurd mem List.not_mem_nil
  | case2 => exact fun _ mem => absurd mem List.not_mem_nil
  | case3 limit index cut item node rest _ position _ next ih =>
    exact List.forall_mem_cons.mpr ⟨soundStart, ih sound soundStart⟩
  | case4 limit index cut item node rest _ position _ _ ih => exact ih sound soundStart
  | case5 limit index cut item node rest _ position _ _ next ih =>
    -- The tree has been passed, so it lies between the cut and the failing token.
    obtain ⟨own, others⟩ := List.forall_mem_cons.mp sound
    have soundNext : AreSound source next.nodes := List.forall_mem_cons.mpr ⟨own, soundStart⟩
    exact List.forall_mem_cons.mpr ⟨soundNext, ih others soundNext⟩
  | case6 limit index nodes cut next _ ih =>
    exact List.forall_mem_cons.mpr ⟨soundStart, ih sound soundStart⟩

/-- The best cuts are among the cuts. -/
theorem mem_of_mem_bestCuts {cuts : List Cut} {cut : Cut} (mem : cut ∈ bestCuts cuts) :
    cut ∈ cuts := by
  have among : ∀ cut ∈ bestCuts cuts, cut ∈ cuts := by
    rw [bestCuts]
    refine List.foldlRecOn (motive := fun best => ∀ cut ∈ best, cut ∈ cuts) cuts _
      (fun _ mem => absurd mem List.not_mem_nil) ?_
    intro best amongBest one isOne
    split
    · exact List.forall_mem_append.mpr ⟨amongBest, List.forall_mem_singleton.mpr isOne⟩
    · split
      · refine List.forall_mem_map.mpr fun other mem => ?_
        split
        · exact isOne
        · exact amongBest other mem
      · exact amongBest
  exact among cut mem

/-- The trees between a cut for a failed attempt and the failing token are sound. -/
theorem areSound_cutsAt (items : Array Item) {stuck : Stuck} (sound : stuck.IsSound source) :
    ∀ cut ∈ cutsAt items stuck, AreSound source cut.nodes := by
  rw [cutsAt]
  refine List.forall_mem_cons.mpr ⟨areSound_nil, fun cut mem => ?_⟩
  obtain ⟨nodes, isReading, mem⟩ := List.mem_flatMap.mp (mem_of_mem_bestCuts mem)
  have soundNodes := sound nodes (mem_of_mem_eraseDupsBy isReading)
  refine areSound_cutsBefore (fun node inside => ?_) areSound_nil cut mem
  exact soundNodes node (List.mem_reverse.mp (List.mem_filter.mp inside).1)

/-- A token that stands for an identifier stands where it stood. -/
theorem Token.IsCounted.asIdentifier {token : Token} (counted : token.IsCounted source) :
    token.asIdentifier.IsCounted source := by
  refine ⟨?_, ?_, ?_⟩
  · rw [Token.before_asIdentifier]
    exact counted.before
  · rw [Token.span_asIdentifier]
    exact counted.span
  · rw [Token.behind_asIdentifier]
    exact counted.behind

/-- Setting tokens aside puts sound trees into an error node that starts where a token does. -/
theorem Draft.IsSound.setAside {draft : Draft} (sound : draft.IsSound source) (text : Source)
    (failing : ℕ) {cut : Cut} (soundCut : AreSound source cut.nodes) (next : ℕ) :
    (draft.setAside text failing cut next).IsSound source := by
  have errors : AreSound source
      ((draft.items.extract cut.first next).toList.flatMap (·.errors)) := by
    intro node mem
    obtain ⟨item, isItem, mem⟩ := List.mem_flatMap.mp mem
    exact (sound.items item (mem_of_mem_extract (Array.mem_toList_iff.mp isItem))).errors node mem
  have error : Node.IsSound source (.mk .error none (Grammar.spanBetween draft.items cut.first next)
      false ((draft.items.extract cut.first next).toList.flatMap (·.errors) ++ cut.nodes)) :=
    .mk (Grammar.isCounted_spanBetween sound.items _ _) (absurd · Bool.false_ne_true)
      (errors.append soundCut)
  have kept {start stop : ℕ} : ∀ item ∈ draft.items.extract start stop, item.IsSound source :=
    fun item mem => sound.items item (mem_of_mem_extract mem)
  rw [Draft.setAside]
  dsimp only
  split
  · next item isItem =>
    have soundItem := sound.items item (Array.mem_of_getElem? isItem)
    refine ⟨fun other mem => ?_, sound.trailing⟩
    rcases Array.mem_append.mp mem with before | behind
    · rcases Array.mem_push.mp before with before | rfl
      · exact kept other before
      · refine ⟨?_, List.forall_mem_cons.mpr ⟨error, soundItem.errors⟩⟩
        dsimp only
        split
        · exact soundItem.token.asIdentifier
        · exact soundItem.token
    · exact kept other behind
  · exact ⟨kept, List.forall_mem_cons.mpr ⟨error, sound.trailing⟩⟩

/-- A supplied token starts where the one in front of it ends. -/
theorem Draft.IsSound.supply {draft : Draft} (sound : draft.IsSound source) (failing : ℕ)
    (kind : TokenKind) (text : String) : (draft.supply failing kind text).IsSound source := by
  have kept {start stop : ℕ} : ∀ item ∈ draft.items.extract start stop, item.IsSound source :=
    fun item mem => sound.items item (mem_of_mem_extract mem)
  refine ⟨fun other mem => ?_, sound.trailing⟩
  rcases Array.mem_append.mp mem with before | behind
  · rcases Array.mem_push.mp before with before | rfl
    · exact kept other before
    · refine ⟨?_, areSound_nil⟩
      dsimp only
      split
      · next item isItem =>
        have place := (sound.items item (Array.mem_of_getElem? isItem)).token.before
        exact ⟨place, place, place⟩
      · exact ⟨isCounted_start, isCounted_start, isCounted_start⟩
  · exact kept other behind

/-- One more repair leaves a draft sound. -/
theorem Draft.IsSound.repairs {draft : Draft} (sound : draft.IsSound source) (text : Source)
    {stuck : Stuck} (soundStuck : stuck.IsSound source) :
    ∀ other ∈ draft.repairs text stuck, other.IsSound source := by
  intro other mem
  rw [Draft.repairs, List.mem_mergeSort, List.mem_append] at mem
  rcases mem with aside | supplied
  · obtain ⟨cut, isCut, mem⟩ := List.mem_flatMap.mp aside
    obtain ⟨next, -, rfl⟩ := List.mem_map.mp mem
    exact sound.setAside text _ (areSound_cutsAt _ soundStuck cut isCut) next
  · rw [Draft.supplies] at supplied
    split at supplied
    · obtain ⟨terminal, -, supply⟩ := List.mem_filterMap.mp supplied
      obtain ⟨⟨kind, text⟩, -, rfl⟩ := Option.map_eq_some_iff.mp supply
      exact sound.supply _ kind text
    · exact absurd supplied List.not_mem_nil

/-- The tree that the search finds is sound. -/
theorem isSound_of_search (text : Source) {attempts : ℕ} {drafts : List Draft} {root : Node}
    (sound : ∀ draft ∈ drafts, draft.IsSound source)
    (found : search text attempts drafts = some root) : root.IsSound source := by
  fun_induction search text attempts drafts with
  | case1 => exact nomatch found
  | case2 => exact nomatch found
  | case3 attempts draft rest outcome stop nodes yields =>
    have soundDraft := sound draft List.mem_cons_self
    exact isSound_of_enclose (soundDraft.outcome.result _ _ yields) soundDraft.trailing found
  | case4 attempts draft rest outcome _ _ ih =>
    exact ih (fun other mem => sound other (List.mem_cons_of_mem draft mem)) found
  | case5 attempts draft rest outcome _ _ ih =>
    obtain ⟨soundDraft, others⟩ := List.forall_mem_cons.mp sound
    refine ih (fun other mem => ?_) found
    rcases List.mem_merge.mp mem with known | repaired
    · exact others other known
    · exact soundDraft.repairs text soundDraft.outcome.stuck other repaired

/-- The tree that is made of tokens is sound. -/
theorem isSound_treeOf (text : Source) {tokens : Array Token}
    (counted : ∀ token ∈ tokens, token.IsCounted source) :
    (treeOf text tokens).IsSound source := by
  have draft := isSound_ofTokens counted
  rw [treeOf]
  split
  · next root found =>
    exact isSound_of_search text (List.forall_mem_singleton.mpr draft) found
  · -- What could be read lies in one error node.
    refine .mk (Grammar.isCounted_spanBetween draft.items _ _) (absurd · Bool.false_ne_true) ?_
    cases readings : (Draft.ofTokens tokens).outcome.stuck.readings () with
    | nil => exact areSound_nil
    | cons nodes rest =>
      exact draft.outcome.stuck nodes (readings ▸ List.mem_cons_self)

/-! ## Remarks -/

/-- Merging sound trees by where they start leaves them sound. -/
theorem areSound_mergeByStart {nodes others : List Node} (sound : AreSound source nodes)
    (soundOthers : AreSound source others) : AreSound source (mergeByStart nodes others) := by
  fun_induction mergeByStart nodes others with
  | case1 => exact soundOthers
  | case2 => exact sound
  | case3 node nodes other others _ ih =>
    obtain ⟨own, rest⟩ := List.forall_mem_cons.mp sound
    exact List.forall_mem_cons.mpr ⟨own, ih rest soundOthers⟩
  | case4 node nodes other others _ ih =>
    obtain ⟨own, rest⟩ := List.forall_mem_cons.mp soundOthers
    exact List.forall_mem_cons.mpr ⟨own, ih sound rest⟩

mutual
/-- A tree is sound with remarks in it. -/
theorem Node.IsSound.attachRemarks {remarks : List Remark}
    (counted : ∀ remark ∈ remarks, remark.span.IsCounted source) : {node : Node} →
      node.IsSound source → (attachRemarks remarks node).IsSound source
  | .mk label role span supplied children, sound => by
    cases sound with
    | mk spanCounted token inside =>
      have soundChildren := areSound_attachRemarksAll counted inside
      rw [CSharp.attachRemarks]
      dsimp only
      split
      · refine .mk spanCounted token (areSound_mergeByStart soundChildren ?_)
        refine List.forall_mem_map.mpr fun remark mem => ?_
        have isRemark := (List.mem_filter.mp mem).1
        exact .mk (counted remark isRemark) (absurd · Bool.false_ne_true) areSound_nil
      · exact .mk spanCounted token soundChildren

/-- Trees are sound with remarks in them. -/
theorem areSound_attachRemarksAll {remarks : List Remark}
    (counted : ∀ remark ∈ remarks, remark.span.IsCounted source) : {nodes : List Node} →
      AreSound source nodes → AreSound source (attachRemarksAll remarks nodes)
  | [], _ => by
    rw [attachRemarksAll]
    exact areSound_nil
  | node :: rest, sound => by
    obtain ⟨own, others⟩ := List.forall_mem_cons.mp sound
    rw [attachRemarksAll]
    exact List.forall_mem_cons.mpr
      ⟨own.attachRemarks counted, areSound_attachRemarksAll counted others⟩
end

/-! ## Texts -/

/-- The tree of a text is sound. -/
theorem isSound_parse (source : Source) : (parse source).IsSound source := by
  have counted := areCounted_lex source
  rw [parse]
  refine (isSound_treeOf source counted.tokens).attachRemarks fun remark mem => ?_
  exact counted.remarks remark (Array.mem_toList_iff.mp mem)

/-- What is at a place of a sound tree is sound. -/
theorem Node.IsSound.at? {node inner : Node} (sound : node.IsSound source) {place : List ℕ}
    (here : node.at? place = some inner) : inner.IsSound source := by
  induction place generalizing node with
  | nil =>
    obtain rfl := Option.some.inj here
    exact sound
  | cons i rest ih =>
    rw [Node.at?, Option.bind_eq_some_iff] at here
    obtain ⟨child, isChild, below⟩ := here
    cases sound with
    | mk counted token inside => exact ih (inside child (List.mem_of_getElem? isChild)) below

end TypedMvc.CSharp
