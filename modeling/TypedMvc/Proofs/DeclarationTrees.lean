import TypedMvc.Proofs.DeclarationHeads
import TypedMvc.Synthesis.Field

/-!
# Reading a tree of declarations from its lines

The lines of a declaration are those of its attributes, the one that says what is declared, and the
block of what is inside it (`Node.IsLegible.linesOf_eq`). A block ends at the first bracket that
stands where a declaration could begin, as no declaration begins with one (`opening`, `Ends`).
So a tree can be read from its lines, one declaration after another and each one from the outside
in: `Node.IsLegible.reads`, and `linesOfAll_append_inj` for the declarations of a block. Nothing is
read twice or left over, so the lines that follow are the same too.
-/

namespace TypedMvc.Declaration

open Synthesis

/-! ## Trees that can be read -/

/-- Whether a declaration has a block for what is inside it. -/
def Content.hasBlock : Content → Bool
  | .ofNamespace | .ofClass => true
  | .ofField _ _ | .ofProperty _ _ => false

/-- A tree whose names and types are words, with nothing in it that has no place on the lines. -/
inductive Node.IsLegible : Node → Prop where
  /-- The attributes are those of generated classes if there are any, a namespace has no modifiers,
  and only namespaces and classes have anything inside them. -/
  | mk {content : Content} {name : String} {modifiers : List Modifier}
      {attributes : List Attribute} {children : List Node} (legible : content.IsLegible)
      (isWord : IsWord name) (attributed : attributes = [] ∨ attributes = generatedAttributes)
      (unmodified : content = .ofNamespace → modifiers = [])
      (childless : content.hasBlock = false → children = [])
      (inside : ∀ child ∈ children, child.IsLegible) :
      IsLegible (.mk content name modifiers attributes children)

/-- The lines of a block with what is inside it, for declarations that have one. -/
def blockLines (depth : Nat) (content : Content) (children : List Node) : List Line :=
  if content.hasBlock then
    ⟨depth, "\x7b"⟩ :: (linesOfAll (depth + 1) none children ++ [⟨depth, "\x7d"⟩])
  else []

/-- The line of what is declared has the text that `linesOf` writes. -/
theorem headLine_eq (content : Content) (name : String) (modifiers : List Modifier) :
    headLine content name modifiers =
      match content with
      | .ofNamespace => renderModifiers modifiers ++ "namespace " ++ name
      | .ofClass => renderModifiers modifiers ++ "class " ++ name
      | .ofField type value =>
        renderModifiers modifiers ++ type ++ " " ++ name ++ " = " ++ value.render ++ ";"
      | .ofProperty type getter =>
        renderModifiers modifiers ++ type ++ " " ++ name ++
          " \x7b get \x7b return " ++ getter.render ++ "; \x7d \x7d" := by
  apply String.toList_injective
  rw [toList_headLine]
  cases content <;> simp [Content.leading, Content.trailing]

/-- The lines of a declaration are the attributes, what is declared, and the block. -/
theorem linesOf_eq {content : Content} {name : String} {modifiers : List Modifier}
    (attributes : List Attribute) (children : List Node) (isWord : IsWord name)
    (unmodified : content = .ofNamespace → modifiers = []) (depth : Nat) :
    linesOf depth (.mk content name modifiers attributes children) =
      attributeLines depth attributes ++
        ⟨depth, headLine content name modifiers⟩ :: blockLines depth content children := by
  rw [headLine_eq]
  cases content with
  | ofNamespace =>
    have text : renderModifiers [] ++ "namespace " ++ name = "namespace " ++ name := by
      rw [renderModifiers, String.empty_append]
    rw [unmodified rfl, text, linesOf]
    simp only [if_neg isWord.nonempty]
    rfl
  | ofClass =>
    rw [linesOf]
    rfl
  | ofField type value =>
    rw [linesOf]
    rfl
  | ofProperty type getter =>
    rw [linesOf]
    rfl

/-! ## Where declarations begin and end -/

/-- Whether a declaration can begin with a character: that of a word, or the bracket in front of
attributes. -/
def beginsDeclaration (c : Char) : Bool := isWordChar c || c == '['

/-- The first character on some lines apart from indentation and blank lines. -/
def opening (lines : List Line) : Option Char := (lines.flatMap fun line => line.text.toList).head?

/-- Lines on which no declaration begins, neither at once nor behind a blank line. -/
def Ends (lines : List Line) : Prop := ∀ c ∈ opening lines, beginsDeclaration c = false

/-- A blank line does not matter for how lines begin. -/
theorem opening_blank (lines : List Line) : opening (.blank :: lines) = opening lines := rfl

/-- Lines begin with the first character of the first one if it is not blank. -/
theorem opening_cons {line : Line} {c : Char} {chars : List Char}
    (text : line.text.toList = c :: chars) (lines : List Line) :
    opening (line :: lines) = some c := by
  rw [opening, List.flatMap_cons, text]
  rfl

/-- The bracket behind a block ends the declarations in it. -/
theorem ends_block (depth : Nat) (lines : List Line) : Ends (⟨depth, "\x7d"⟩ :: lines) := by
  intro c first
  have text : "\x7d".toList = ['\x7d'] := by decide
  rw [opening_cons text] at first
  obtain rfl : '\x7d' = c := Option.some.inj first
  decide +kernel

/-- The attributes of generated classes stand on one line, which begins with a bracket. -/
theorem exists_attributeLines (depth : Nat) :
    ∃ text chars, attributeLines depth generatedAttributes = [⟨depth, text⟩] ∧
      text.toList = '[' :: chars := by
  have bracket : ∀ s, ("[" ++ s ++ "]").toList = '[' :: (s ++ "]").toList := by
    intro s
    rw [String.append_assoc, String.toList_append]
    rfl
  exact ⟨_, _, rfl, bracket _⟩

/-- The lines of a declaration begin with one that is not blank. -/
theorem Node.IsLegible.exists_linesOf {node : Node} (legible : node.IsLegible) (depth : Nat) :
    ∃ line rest c chars, linesOf depth node = line :: rest ∧ line.text.toList = c :: chars ∧
      beginsDeclaration c = true := by
  obtain ⟨content, isWord, attributed, unmodified, -, -⟩ := legible
  rw [linesOf_eq _ _ isWord unmodified]
  rcases attributed with rfl | rfl
  · -- Without attributes, the line with the name is the first.
    obtain ⟨c, chars, text, isChar⟩ := exists_toList_headLine content _ _
    exact ⟨_, _, c, chars, rfl, text, by rw [beginsDeclaration, isChar, Bool.true_or]⟩
  · obtain ⟨line, chars, lines, text⟩ := exists_attributeLines depth
    exact ⟨_, _, '[', chars, by rw [lines]; rfl, text, by decide +kernel⟩

/-- A declaration begins with a character that one can begin with. -/
theorem Node.IsLegible.opening_linesOf {node : Node} (legible : node.IsLegible) (depth : Nat)
    (rest : List Line) :
    ∃ c ∈ opening (linesOf depth node ++ rest), beginsDeclaration c = true := by
  obtain ⟨line, more, c, chars, lines, text, begins⟩ := legible.exists_linesOf depth
  rw [lines, List.cons_append, opening_cons text]
  exact ⟨c, rfl, begins⟩

/-- A declaration does not begin with a blank line. -/
theorem Node.IsLegible.linesOf_append_ne_blank_cons {node : Node} (legible : node.IsLegible)
    (depth : Nat) (rest lines : List Line) : linesOf depth node ++ rest ≠ .blank :: lines := by
  obtain ⟨line, more, c, chars, first, text, -⟩ := legible.exists_linesOf depth
  rw [first, List.cons_append]
  intro same
  rw [(List.cons.inj same).1] at text
  exact absurd text nofun

/-- Between declarations there is a blank line or nothing. -/
theorem separation_eq_or (previous : Option Kind) (kind : Kind) :
    separation previous kind = [] ∨ separation previous kind = [.blank] := by
  unfold separation
  split
  · split
    · exact Or.inr rfl
    · exact Or.inl rfl
  · exact Or.inl rfl

/-- The blank line between declarations does not matter for how lines begin. -/
theorem opening_separation (previous : Option Kind) (kind : Kind) (lines : List Line) :
    opening (separation previous kind ++ lines) = opening lines := by
  rcases separation_eq_or previous kind with none | blank
  · rw [none, List.nil_append]
  · rw [blank, List.singleton_append, opening_blank]

/-- No declaration begins where they end. -/
theorem Ends.ne_declaration {lines : List Line} (ends : Ends lines) {node : Node}
    (legible : node.IsLegible) (depth : Nat) (previous : Option Kind) (rest : List Line) :
    lines ≠ separation previous node.kind ++ (linesOf depth node ++ rest) := by
  rintro rfl
  obtain ⟨c, first, begins⟩ := legible.opening_linesOf depth rest
  rw [← opening_separation previous node.kind] at first
  exact Bool.false_ne_true ((ends c first).symm.trans begins)

/-- Where declarations follow, it can be read whether there is a blank line in front of them. -/
theorem separation_append_inj {n m : Node} (legibleN : n.IsLegible) (legibleM : m.IsLegible)
    {depth : Nat} {previous : Option Kind} {x y : List Line}
    (same : separation previous n.kind ++ (linesOf depth n ++ x) =
      separation previous m.kind ++ (linesOf depth m ++ y)) :
    linesOf depth n ++ x = linesOf depth m ++ y := by
  rcases separation_eq_or previous n.kind with none | blank <;>
    rcases separation_eq_or previous m.kind with none' | blank'
  · rwa [none, none'] at same
  · -- The blank line in front of one of them would be the first line of the other.
    rw [none, blank'] at same
    exact absurd same (legibleN.linesOf_append_ne_blank_cons _ _ _)
  · rw [blank, none'] at same
    exact absurd same.symm (legibleM.linesOf_append_ne_blank_cons _ _ _)
  · rw [blank, blank'] at same
    exact (List.cons.inj same).2

/-! ## Reading -/

/-- The line of the attributes can be read, and whether there is one. -/
theorem attributeLines_append_inj {a b : List Attribute}
    (attributedA : a = [] ∨ a = generatedAttributes)
    (attributedB : b = [] ∨ b = generatedAttributes) {content content' : Content}
    (legible : content.IsLegible) (legible' : content'.IsLegible) {name name' : String}
    {modifiers modifiers' : List Modifier} {depth : Nat} {x y : List Line}
    (same : attributeLines depth a ++ ⟨depth, headLine content name modifiers⟩ :: x =
      attributeLines depth b ++ ⟨depth, headLine content' name' modifiers'⟩ :: y) :
    a = b ∧ headLine content name modifiers = headLine content' name' modifiers' ∧ x = y := by
  -- The bracket in front of attributes is not read as the first word of a declaration.
  have notHead : ∀ {content : Content} {name : String} {modifiers : List Modifier}
      {x y : List Line}, content.IsLegible → ⟨depth, headLine content name modifiers⟩ :: x ≠
        attributeLines depth generatedAttributes ++ y := by
    intro content name modifiers x y legible same
    obtain ⟨c, _, text, isChar⟩ := exists_toList_headLine legible name modifiers
    obtain ⟨attributes, _, lines, bracket⟩ := exists_attributeLines depth
    rw [lines] at same
    have texts : headLine content name modifiers = attributes :=
      congrArg Line.text (List.cons.inj same).1
    rw [← texts, text] at bracket
    exact sign_ne (by decide) isChar (List.cons.inj bracket).1.symm
  rcases attributedA with rfl | rfl <;> rcases attributedB with rfl | rfl
  · obtain ⟨heads, rests⟩ := List.cons.inj same
    exact ⟨rfl, congrArg Line.text heads, rests⟩
  · exact absurd same (notHead legible)
  · exact absurd same.symm (notHead legible')
  · obtain ⟨heads, rests⟩ := List.cons.inj (List.append_cancel_left same)
    exact ⟨rfl, congrArg Line.text heads, rests⟩

/-- Whether a declaration can be read off the beginning of some lines. -/
def Node.Reads (n : Node) : Prop :=
  ∀ ⦃m : Node⦄, m.IsLegible → ∀ ⦃depth : Nat⦄ ⦃x y : List Line⦄,
    linesOf depth n ++ x = linesOf depth m ++ y → n = m ∧ x = y

/-- Declarations can be read off the beginning of some lines if each of them can, up to lines on
which no declaration begins. -/
theorem linesOfAll_append_inj_of_reads {nodes others : List Node} (reads : ∀ n ∈ nodes, n.Reads)
    (legible : ∀ n ∈ nodes, n.IsLegible) (legible' : ∀ m ∈ others, m.IsLegible) {depth : Nat}
    {previous : Option Kind} {x y : List Line} (endsX : Ends x) (endsY : Ends y)
    (same : linesOfAll depth previous nodes ++ x = linesOfAll depth previous others ++ y) :
    nodes = others ∧ x = y := by
  induction nodes generalizing others previous with
  | nil =>
    cases others with
    | nil => exact ⟨rfl, same⟩
    | cons m others =>
      -- The lines behind the declarations would begin with another one.
      rw [linesOfAll, linesOfAll, List.append_assoc, List.append_assoc] at same
      exact absurd same
        (endsX.ne_declaration (legible' m List.mem_cons_self) depth previous _)
  | cons n nodes ih =>
    obtain ⟨readsN, readsNodes⟩ := List.forall_mem_cons.mp reads
    obtain ⟨legibleN, legibleNodes⟩ := List.forall_mem_cons.mp legible
    cases others with
    | nil =>
      rw [linesOfAll, linesOfAll, List.append_assoc, List.append_assoc] at same
      exact absurd same.symm (endsY.ne_declaration legibleN depth previous _)
    | cons m others =>
      obtain ⟨legibleM, legibleOthers⟩ := List.forall_mem_cons.mp legible'
      -- As the first declarations are the same, what stands in front of the next ones is too.
      simp only [linesOfAll, List.append_assoc] at same
      have first := separation_append_inj legibleN legibleM same
      obtain ⟨rfl, rests⟩ := readsN legibleM first
      obtain ⟨rfl, ends⟩ := ih readsNodes legibleNodes legibleOthers rests
      exact ⟨rfl, ends⟩

/-- A declaration can be read off the beginning of some lines, from the outside in. -/
theorem Node.IsLegible.reads {n : Node} (legibleN : n.IsLegible) : n.Reads := by
  -- The induction is on the tree: what is inside a declaration can be read.
  induction legibleN with
  | @mk content name modifiers attributes children legible isWord attributed unmodified childless
      inside ih =>
    rintro _ ⟨legible', isWord', attributed', unmodified', childless', inside'⟩ depth x y same
    rw [linesOf_eq _ _ isWord unmodified, linesOf_eq _ _ isWord' unmodified', List.append_assoc,
      List.append_assoc, List.cons_append, List.cons_append] at same
    obtain ⟨rfl, heads, blocks⟩ :=
      attributeLines_append_inj attributed attributed' legible legible' same
    obtain ⟨rfl, rfl, rfl⟩ := headLine_inj legible legible' isWord isWord' heads
    cases block : content.hasBlock with
    | false =>
      have nothing : children = [] := childless block
      have nothing' : _ = [] := childless' block
      simp only [blockLines, block, if_neg Bool.false_ne_true, List.nil_append] at blocks
      exact ⟨by rw [nothing, nothing'], blocks⟩
    | true =>
      simp only [blockLines, block, if_pos, List.cons_append, List.append_assoc]
        at blocks
      obtain ⟨rfl, rests⟩ := linesOfAll_append_inj_of_reads ih inside inside' (ends_block _ _)
        (ends_block _ _) (List.cons.inj blocks).2
      exact ⟨rfl, (List.cons.inj rests).2⟩

/-- Declarations can be read off the beginning of some lines, up to lines on which no declaration
begins. -/
theorem linesOfAll_append_inj {nodes others : List Node} (legible : ∀ n ∈ nodes, n.IsLegible)
    (legible' : ∀ m ∈ others, m.IsLegible) {depth : Nat} {previous : Option Kind}
    {x y : List Line} (endsX : Ends x) (endsY : Ends y)
    (same : linesOfAll depth previous nodes ++ x = linesOfAll depth previous others ++ y) :
    nodes = others ∧ x = y :=
  linesOfAll_append_inj_of_reads (fun n mem => (legible n mem).reads) legible legible' endsX endsY
    same

/-! ## The lines are plain -/

/-- A blank line is plain. -/
theorem isPlain_blank : Line.blank.IsPlain := by decide

/-- A line is plain if it has no line feed and begins with a character that is no blank. -/
theorem isPlain_of_begins {line : Line} {c : Char} {chars : List Char}
    (text : line.text.toList = c :: chars) (notBlank : c ≠ ' ')
    (unbroken : '\n' ∉ line.text.toList) : line.IsPlain := by
  refine ⟨unbroken, fun first => notBlank ?_⟩
  rw [text] at first
  exact Option.some.inj first

/-- The line of the attributes is plain. -/
theorem isPlain_attributeLines {attributes : List Attribute}
    (attributed : attributes = [] ∨ attributes = generatedAttributes) (depth : Nat) :
    ∀ line ∈ attributeLines depth attributes, line.IsPlain := by
  rcases attributed with rfl | rfl
  · exact List.forall_mem_nil _
  · intro line mem
    obtain rfl : line = ⟨depth, _⟩ := List.mem_singleton.mp mem
    exact Line.IsPlain.atDepth (by decide +kernel) depth

/-- The lines of declarations are those of each of them and blank ones. -/
theorem mem_linesOfAll {depth : Nat} {previous : Option Kind} {nodes : List Node} {line : Line}
    (mem : line ∈ linesOfAll depth previous nodes) :
    line = .blank ∨ ∃ node ∈ nodes, line ∈ linesOf depth node := by
  induction nodes generalizing previous with
  | nil =>
    rw [linesOfAll] at mem
    exact absurd mem List.not_mem_nil
  | cons node rest ih =>
    rw [linesOfAll, List.mem_append, List.mem_append] at mem
    rcases mem with (between | first) | later
    · rcases separation_eq_or previous node.kind with none | blank
      · rw [none] at between
        exact absurd between List.not_mem_nil
      · rw [blank] at between
        exact Or.inl (List.mem_singleton.mp between)
    · exact Or.inr ⟨node, List.mem_cons_self, first⟩
    · rcases ih later with blank | ⟨other, mem, inside⟩
      · exact Or.inl blank
      · exact Or.inr ⟨other, List.mem_cons_of_mem _ mem, inside⟩

/-- The lines of a declaration are plain. -/
theorem Node.IsLegible.isPlain_linesOf {node : Node} (isLegible : node.IsLegible) (depth : Nat) :
    ∀ line ∈ linesOf depth node, line.IsPlain := by
  induction isLegible generalizing depth with
  | @mk content name modifiers attributes children legible isWord attributed unmodified childless
      inside ih =>
    rw [linesOf_eq _ _ isWord unmodified, List.forall_mem_append, List.forall_mem_cons]
    refine ⟨isPlain_attributeLines attributed depth, ?_, ?_⟩
    · obtain ⟨c, chars, text, isChar⟩ := exists_toList_headLine legible name modifiers
      exact isPlain_of_begins text (sign_ne (by decide) isChar).symm
        (unbroken_headLine legible isWord modifiers)
    · unfold blockLines
      split
      · rw [List.forall_mem_cons, List.forall_mem_append]
        refine ⟨Line.IsPlain.atDepth (by decide) depth, fun line mem => ?_, fun line mem => ?_⟩
        · rcases mem_linesOfAll mem with rfl | ⟨child, isChild, inside⟩
          · exact isPlain_blank
          · exact ih child isChild _ line inside
        · rw [List.mem_singleton.mp mem]
          exact Line.IsPlain.atDepth (by decide) depth
      · exact List.forall_mem_nil _

/-- The lines of declarations are plain. -/
theorem isPlain_linesOfAll {nodes : List Node} (legible : ∀ n ∈ nodes, n.IsLegible) (depth : Nat)
    (previous : Option Kind) : ∀ line ∈ linesOfAll depth previous nodes, line.IsPlain := by
  intro line mem
  rcases mem_linesOfAll mem with rfl | ⟨node, isNode, inside⟩
  · exact isPlain_blank
  · exact (legible node isNode).isPlain_linesOf depth line inside

end TypedMvc.Declaration
