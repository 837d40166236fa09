import TypedMvc.Proofs.BracePairs
import TypedMvc.Proofs.DeclarationTrees
import TypedMvc.Proofs.GeneratedClasses
import TypedMvc.Proofs.LineTexts
import TypedMvc.Proofs.PathPieces

/-!
# How a source text is indented

A source text is written line by line, with the depth of each line at hand, and nothing of that is
left in the text but its rows. The rows of a tree of declarations are nested in their braces
(`areNested_linesOf`), by induction on the tree with the depth free: a class or a namespace with a
name makes a block around what is inside it, and the global namespace makes none, wherever it is. At
another depth the lines are the same, moved by so many levels (`map_deepen_linesOf`).
`render_indented` says what this comes to for a whole text: the braces tell how each row is
indented.
-/

namespace TypedMvc.Declaration

open DyckStep

/-! ## Rows -/

/-- A line as a row of the source text. -/
def Line.row (line : Line) : String :=
  String.ofList (List.replicate (line.depth * 4) ' ' ++ line.text.toList)

/-- The rows of lines, each of which stays on its row, and what is behind the last line feed. -/
theorem pieces_lines {lines : List Line} (oneLine : ∀ line ∈ lines, IsOneLine line.text) :
    Text.pieces '\n' (String.ofList (lines.flatMap Line.chars)) = lines.map Line.row ++ [""] := by
  rw [Text.pieces, String.toList_ofList]
  induction lines with
  | nil => rfl
  | cons line rest ih =>
    obtain ⟨first, later⟩ := List.forall_mem_cons.mp oneLine
    have noFeed : '\n' ∉ List.replicate (line.depth * 4) ' ' ++ line.text.toList := by
      rw [List.mem_append, not_or]
      exact ⟨fun mem => absurd (List.eq_of_mem_replicate mem) (by decide), first⟩
    rw [List.flatMap_cons, Line.chars_eq, ← List.append_assoc, List.append_assoc,
      List.singleton_append, Text.piecesOf_append, Text.piecesOf_of_not_mem noFeed,
      List.singleton_append, List.map_cons, ih later]
    rfl

/-- Where the indentation of a row ends. -/
theorem row_split {text : String} (unindented : text.toList.head? ≠ some ' ') (depth : ℕ) :
    (Line.row ⟨depth, text⟩).toList.takeWhile (· == ' ') = List.replicate (depth * 4) ' ' ∧
      (Line.row ⟨depth, text⟩).toList.dropWhile (· == ' ') = text.toList := by
  have blanks : ∀ c ∈ List.replicate (depth * 4) ' ', (c == ' ') = true :=
    fun c mem => beq_iff_eq.mpr (List.eq_of_mem_replicate mem)
  have ends : ∀ c ∈ text.toList.head?, (c == ' ') = false := by
    intro c first
    rw [beq_eq_false_iff_ne]
    rintro rfl
    exact unindented first
  have none : text.toList.takeWhile (· == ' ') = [] :=
    takeWhile_append_of_ends (List.forall_mem_nil _) ends
  have stays := List.takeWhile_append_dropWhile (p := (· == ' ')) (l := text.toList)
  rw [none, List.nil_append] at stays
  rw [Line.row, String.toList_ofList]
  exact ⟨takeWhile_append_of_ends blanks ends,
    (List.dropWhile_append_of_pos blanks).trans stays⟩

/-- A row is indented by four blanks for each level. -/
theorem indentOf_row {text : String} (unindented : text.toList.head? ≠ some ' ') (depth : ℕ) :
    indentOf (Line.row ⟨depth, text⟩) = 4 * depth := by
  rw [indentOf, (row_split unindented depth).1, List.length_replicate, Nat.mul_comm]

theorem braceOf?_opening (depth : ℕ) : braceOf? (Line.row ⟨depth, "\x7b"⟩) = some U := by
  rw [braceOf?, (row_split (by decide) depth).2]
  rfl

theorem braceOf?_closing (depth : ℕ) : braceOf? (Line.row ⟨depth, "\x7d"⟩) = some D := by
  rw [braceOf?, (row_split (by decide) depth).2]
  rfl

/-- A text for a line is no brace. -/
theorem IsLineText.braceOf?_eq_none {text : String} (isText : IsLineText text) (depth : ℕ) :
    braceOf? (Line.row ⟨depth, text⟩) = none := by
  rw [braceOf?, (row_split isText.unindented depth).2]
  have long := isText.long
  split
  · rename_i chars
    rw [chars] at long
    exact absurd long (by decide)
  · rename_i chars
    rw [chars] at long
    exact absurd long (by decide)
  · rfl

/-- Lines at a certain depth: their rows are nested there, and none of them has a line feed in its
text. -/
structure AreNested (depth : ℕ) (lines : List Line) : Prop where
  /-- The rows are nested. -/
  nested : Nested depth (lines.map Line.row)
  /-- Each line is one row. -/
  oneLine : ∀ line ∈ lines, IsOneLine line.text

theorem areNested_nil (depth : ℕ) : AreNested depth [] := ⟨.nil, List.forall_mem_nil _⟩

theorem AreNested.append {depth : ℕ} {front back : List Line} (nested : AreNested depth front)
    (nested' : AreNested depth back) : AreNested depth (front ++ back) := by
  refine ⟨?_, List.forall_mem_append.mpr ⟨nested.oneLine, nested'.oneLine⟩⟩
  rw [List.map_append]
  exact nested.nested.append nested'.nested

/-- A line with a text is nested at its own depth. -/
theorem IsLineText.areNested {text : String} (isText : IsLineText text) (depth : ℕ) :
    AreNested depth [⟨depth, text⟩] := by
  refine ⟨.row (isText.braceOf?_eq_none depth)
    (fun _ => indentOf_row isText.unindented depth) .nil, ?_⟩
  intro line mem
  rw [List.mem_singleton.mp mem]
  exact isText.oneLine

/-- A blank line is nested at every depth. -/
theorem areNested_blank (depth : ℕ) : AreNested depth [.blank] := by
  refine ⟨.row (by decide) (absurd (by decide)) .nil, ?_⟩
  intro line mem
  rw [List.mem_singleton.mp mem]
  decide

/-- Nested lines are nested in a block around them. -/
theorem AreNested.block {depth : ℕ} {lines : List Line} (nested : AreNested (depth + 1) lines) :
    AreNested depth (⟨depth, "\x7b"⟩ :: (lines ++ [⟨depth, "\x7d"⟩])) := by
  constructor
  · have block := Nested.block (braceOf?_opening depth) (braceOf?_closing depth)
      (indentOf_row (by decide) depth) (indentOf_row (by decide) depth) nested.nested .nil
    rw [List.append_nil] at block
    rwa [List.map_cons, List.map_append]
  · rw [List.forall_mem_cons, List.forall_mem_append, List.forall_mem_singleton]
    have braces : IsOneLine "\x7b" ∧ IsOneLine "\x7d" := by decide
    exact ⟨braces.1, nested.oneLine, braces.2⟩

/-- Lines are nested if each of them is blank or has a text and is at their depth. -/
theorem areNested_of_texts {depth : ℕ} {lines : List Line}
    (texts : ∀ line ∈ lines, line = .blank ∨ line.depth = depth ∧ IsLineText line.text) :
    AreNested depth lines := by
  induction lines with
  | nil => exact areNested_nil depth
  | cons line rest ih =>
    obtain ⟨first, later⟩ := List.forall_mem_cons.mp texts
    have single : AreNested depth [line] := by
      obtain rfl | ⟨rfl, isText⟩ := first
      · exact areNested_blank depth
      · exact isText.areNested line.depth
    exact single.append (ih later)

/-! ## The lines of declarations -/

theorem areNested_attributeLines {attributes : List Attribute}
    (fits : ∀ a ∈ attributes, a.FitsLine) (depth : ℕ) :
    AreNested depth (attributeLines depth attributes) := by
  rw [attributeLines]
  split
  · exact areNested_nil depth
  · have texts : ∀ text ∈ attributes.map Attribute.render, IsOneLine text := by
      rw [List.forall_mem_map]
      exact fun a mem => (fits a mem).isOneLine
    exact (isLineText_brackets (isOneLine_join (by decide) texts)).areNested depth

theorem areNested_separation (previous : Option Kind) (kind : Kind) (depth : ℕ) :
    AreNested depth (separation previous kind) := by
  obtain none | blank := separation_eq_or previous kind
  · rw [none]
    exact areNested_nil depth
  · rw [blank]
    exact areNested_blank depth

mutual
/-- The lines of a declaration are nested at its depth. -/
theorem areNested_linesOf : (node : Node) → (∀ inner ∈ node.walk, inner.FitsLines) →
    (depth : ℕ) → AreNested depth (linesOf depth node)
  | .mk content name modifiers attributes children, fits, depth => by
    rw [Node.walk, List.forall_mem_cons] at fits
    obtain ⟨own, inside⟩ := fits
    have attributed := areNested_attributeLines own.attributes depth
    cases content with
    | ofNamespace =>
      rw [linesOf]
      refine attributed.append ?_
      split
      · -- The global namespace has no block of its own.
        exact areNested_linesOfAll children inside depth none
      · -- One with a name has, and what is inside is a level deeper.
        have text : IsLineText ("namespace " ++ name) :=
          IsLineText.append (by decide) own.name
        exact (text.areNested depth).append (areNested_linesOfAll children inside _ none).block
    | ofClass =>
      rw [linesOf]
      refine attributed.append ?_
      have text : IsLineText (renderModifiers modifiers ++ ("class " ++ name)) :=
        isLineText_modifiers modifiers (IsLineText.append (by decide) own.name)
      rw [← String.append_assoc] at text
      exact (text.areNested depth).append (areNested_linesOfAll children inside _ none).block
    | ofField type value =>
      rw [linesOf]
      refine attributed.append ?_
      have oneLine : IsOneLine (name ++ " = " ++ value.render ++ ";") := by
        rw [isOneLine_append, isOneLine_append, isOneLine_append]
        exact ⟨⟨⟨own.name, by decide⟩, (own.value value rfl).isOneLine⟩, by decide⟩
      have text := isLineText_modifiers modifiers (isLineText_type (own.type type rfl) oneLine)
      simp only [← String.append_assoc] at text
      exact text.areNested depth
    | ofProperty type getter =>
      rw [linesOf]
      refine attributed.append ?_
      have oneLine : IsOneLine (name ++ " \x7b get \x7b return " ++ getter.render ++
          "; \x7d \x7d") := by
        rw [isOneLine_append, isOneLine_append, isOneLine_append]
        exact ⟨⟨⟨own.name, by decide⟩, (own.value getter rfl).isOneLine⟩, by decide⟩
      have text := isLineText_modifiers modifiers (isLineText_type (own.type type rfl) oneLine)
      simp only [← String.append_assoc] at text
      exact text.areNested depth

/-- The lines of declarations one after another are nested at their depth. -/
theorem areNested_linesOfAll : (nodes : List Node) →
    (∀ inner ∈ Node.walkAll nodes, inner.FitsLines) → (depth : ℕ) → (previous : Option Kind) →
      AreNested depth (linesOfAll depth previous nodes)
  | [], _, depth, _ => by
    rw [linesOfAll]
    exact areNested_nil depth
  | node :: rest, fits, depth, previous => by
    rw [Node.walkAll, List.forall_mem_append] at fits
    rw [linesOfAll]
    exact ((areNested_separation previous node.kind depth).append
      (areNested_linesOf node fits.1 depth)).append
        (areNested_linesOfAll rest fits.2 depth (some node.kind))
end

/-- The lines of a whole source text are nested. -/
theorem areNested_lines {unit : CompilationUnit} (usings : ∀ name ∈ unit.usings, IsOneLine name)
    (fits : ∀ node ∈ unit.members.flatMap Node.walk, node.FitsLines) : AreNested 0 unit.lines := by
  rw [← Node.walkAll_eq_flatMap] at fits
  have header : AreNested 0 headerLines := areNested_of_texts (by decide +kernel)
  have footer : AreNested 0 footerLines := areNested_of_texts (by decide +kernel)
  have imported : AreNested 0 (usingLines unit.usings) := by
    rw [usingLines]
    split
    · exact areNested_nil 0
    · refine (areNested_of_texts ?_).append (areNested_blank 0)
      rw [List.forall_mem_map]
      intro name mem
      have text : IsLineText "using " := by decide
      exact Or.inr ⟨rfl, (text.append (usings name mem)).append (by decide)⟩
  exact ((header.append imported).append
    (areNested_linesOfAll unit.members fits 0 none)).append footer

/-- The rows of a source text are those of its lines. -/
theorem pieces_render {unit : CompilationUnit} (usings : ∀ name ∈ unit.usings, IsOneLine name)
    (fits : ∀ node ∈ unit.members.flatMap Node.walk, node.FitsLines) :
    Text.pieces '\n' unit.render = unit.lines.map Line.row ++ [""] :=
  pieces_lines (areNested_lines usings fits).oneLine

/-! ## The same lines deeper -/

/-- A line some levels deeper; a blank one stays as it is. -/
def Line.deepen (levels : ℕ) (line : Line) : Line :=
  if line = .blank then .blank else ⟨line.depth + levels, line.text⟩

/-- A row with more blanks in front; an empty one stays as it is. -/
def indentBy (levels : ℕ) (row : String) : String :=
  if row = "" then "" else String.ofList (List.replicate (4 * levels) ' ') ++ row

variable {levels depth : ℕ} {text : String}

theorem deepen_of_text (nonempty : text ≠ "") :
    Line.deepen levels ⟨depth, text⟩ = ⟨depth + levels, text⟩ := by
  rw [Line.deepen, if_neg]
  intro blank
  exact nonempty (congrArg Line.text blank)

theorem map_deepen_separation (previous : Option Kind) (kind : Kind) :
    (separation previous kind).map (Line.deepen levels) = separation previous kind := by
  obtain none | blank := separation_eq_or previous kind
  · rw [none]
    rfl
  · rw [blank]
    rfl

theorem append_ne_empty {front back : String} (nonempty : back ≠ "") : front ++ back ≠ "" :=
  fun empty => nonempty (String.append_eq_empty_iff.mp empty).2

theorem map_deepen_attributeLines (levels depth : ℕ) (attributes : List Attribute) :
    (attributeLines depth attributes).map (Line.deepen levels) =
      attributeLines (depth + levels) attributes := by
  rw [attributeLines, attributeLines]
  split
  · rfl
  · rw [List.map_singleton, deepen_of_text (append_ne_empty (by decide))]

theorem map_deepen_block {lines deeper : List Line}
    (inside : lines.map (Line.deepen levels) = deeper) (head : text ≠ "") :
    (⟨depth, text⟩ :: ⟨depth, "\x7b"⟩ :: (lines ++ [⟨depth, "\x7d"⟩])).map (Line.deepen levels) =
      ⟨depth + levels, text⟩ :: ⟨depth + levels, "\x7b"⟩ ::
        (deeper ++ [⟨depth + levels, "\x7d"⟩]) := by
  rw [List.map_cons, List.map_cons, List.map_append, List.map_singleton, inside,
    deepen_of_text head, deepen_of_text (by decide), deepen_of_text (by decide)]

mutual
/-- The lines of a declaration so many levels deeper are its lines at the depth that this makes. -/
theorem map_deepen_linesOf (levels : ℕ) : (node : Node) → (depth : ℕ) →
    (linesOf depth node).map (Line.deepen levels) = linesOf (depth + levels) node
  | .mk content name modifiers attributes children, depth => by
    have attributed := map_deepen_attributeLines levels depth attributes
    have inside := map_deepen_linesOfAll levels children (depth + 1) none
    rw [Nat.add_right_comm] at inside
    cases content with
    | ofNamespace =>
      rw [linesOf, linesOf, List.map_append, attributed]
      congr 1
      split
      · exact map_deepen_linesOfAll levels children depth none
      · rename_i isNamed
        exact map_deepen_block inside (append_ne_empty isNamed)
    | ofClass =>
      have head : renderModifiers modifiers ++ "class " ++ name ≠ "" := by
        intro empty
        exact append_ne_empty (by decide) (String.append_eq_empty_iff.mp empty).1
      rw [linesOf, linesOf, List.map_append, attributed]
      exact congrArg _ (map_deepen_block inside head)
    | ofField type value =>
      rw [linesOf, linesOf, List.map_append, attributed, List.map_singleton,
        deepen_of_text (append_ne_empty (by decide))]
    | ofProperty type getter =>
      rw [linesOf, linesOf, List.map_append, attributed, List.map_singleton,
        deepen_of_text (append_ne_empty (by decide))]

/-- The lines of declarations so many levels deeper are their lines at the depth that this makes. -/
theorem map_deepen_linesOfAll (levels : ℕ) : (nodes : List Node) → (depth : ℕ) →
    (previous : Option Kind) →
      (linesOfAll depth previous nodes).map (Line.deepen levels) =
        linesOfAll (depth + levels) previous nodes
  | [], _, _ => by
    rw [linesOfAll, linesOfAll]
    rfl
  | node :: rest, depth, previous => by
    rw [linesOfAll, linesOfAll, List.map_append, List.map_append, map_deepen_separation,
      map_deepen_linesOf levels node, map_deepen_linesOfAll levels rest]
end

/-- A row is empty if its line is blank, and only then. -/
theorem row_eq_empty_iff {line : Line} : line.row = "" ↔ line = .blank := by
  constructor
  · intro empty
    have chars := congrArg String.toList empty
    rw [Line.row, String.toList_ofList, String.toList_empty, List.append_eq_nil_iff,
      List.replicate_eq_nil_iff] at chars
    obtain ⟨depth, text⟩ := line
    obtain rfl : depth = 0 := by
      have none : depth * 4 = 0 := chars.1
      omega
    obtain rfl : text = "" := String.toList_eq_nil_iff.mp chars.2
    rfl
  · rintro rfl
    rfl

/-- The row of a line so many levels deeper has four more blanks in front for each level. -/
theorem row_deepen (levels : ℕ) (line : Line) :
    (line.deepen levels).row = indentBy levels line.row := by
  rw [Line.deepen, indentBy]
  by_cases blank : line = .blank
  · rw [if_pos blank, if_pos (row_eq_empty_iff.mpr blank)]
    rfl
  · rw [if_neg blank, if_neg (mt row_eq_empty_iff.mp blank), Line.row, Line.row,
      ← String.ofList_append, ← List.append_assoc, List.replicate_append_replicate, Nat.add_mul,
      Nat.mul_comm 4 levels, Nat.add_comm]

/-- The source text of lines. -/
def sourceOf (lines : List Line) : String := String.ofList (lines.flatMap Line.chars)

/-- The rows of a declaration at a depth are those that it has on its own, with four blanks for each
level in front of those that are not empty. -/
theorem pieces_linesOf {node : Node} (fits : ∀ inner ∈ node.walk, inner.FitsLines) (depth : ℕ) :
    Text.pieces '\n' (sourceOf (linesOf depth node)) =
      (Text.pieces '\n' (sourceOf (linesOf 0 node))).map (indentBy depth) := by
  have deeper := map_deepen_linesOf depth node 0
  rw [Nat.zero_add] at deeper
  have rows (depth : ℕ) := pieces_lines (areNested_linesOf node fits depth).oneLine
  rw [sourceOf, sourceOf, rows, rows, List.map_append, List.map_map, ← deeper, List.map_map]
  congr 1
  exact List.map_congr_left fun line _ => row_deepen depth line

/-- The braces that stand alone on the rows of a source text are balanced, and each of them has
another one that goes with it. The two of a pair are indented alike, and every row that is not empty
is indented by four blanks for each pair around it. A declaration has the same rows at every depth,
but for four blanks for each level in front of those that are not empty. -/
theorem render_indented {unit : CompilationUnit} (usings : ∀ name ∈ unit.usings, IsOneLine name)
    (fits : ∀ node ∈ unit.members.flatMap Node.walk, node.FitsLines) :
    let rows := Text.pieces '\n' unit.render
    IsBalanced rows ∧
      (∀ place row, rows[place]? = some row → braceOf? row ≠ none →
        ∃ pair, IsPair rows pair ∧ (pair.1 = place ∨ pair.2 = place)) ∧
      (∀ pair, IsPair rows pair → rows[pair.1]?.map indentOf = rows[pair.2]?.map indentOf) ∧
      (∀ place row, rows[place]? = some row → row ≠ "" →
        (indentOf row : ℕ∞) = 4 * (enclosing rows place).encard) ∧
      ∀ node, (∀ inner ∈ node.walk, inner.FitsLines) → ∀ depth,
        Text.pieces '\n' (sourceOf (linesOf depth node)) =
          (Text.pieces '\n' (sourceOf (linesOf 0 node))).map (indentBy depth) := by
  intro rows
  have nested : Nested 0 rows := by
    show Nested 0 (Text.pieces '\n' unit.render)
    rw [pieces_render usings fits]
    -- Behind the last line feed there is one more row, which is empty.
    exact (areNested_lines usings fits).nested.append (areNested_blank 0).nested
  refine ⟨nested.isBalanced, fun place row isRow => (nested.isPlaced isRow).paired,
    fun pair => nested.indentedAlike, fun place row isRow nonempty => ?_,
    fun node inside depth => pieces_linesOf inside depth⟩
  have indented := (nested.isPlaced isRow).indented nonempty
  rwa [Nat.cast_zero, zero_add] at indented

/-- A class in the global namespace inside of another namespace, with a text of several lines. -/
theorem render_indented_nested :
    let text := Node.ofText "Close" "a\n\x7d\n"
    let inner := (Node.ofNamespace "").withChild ((Node.ofClass "Home").withChild text)
    let unit : CompilationUnit := ⟨["System"], [(Node.ofNamespace "App").withChild inner]⟩
    let rows := Text.pieces '\n' unit.render
    (∀ name ∈ unit.usings, IsOneLine name) ∧
      (∀ node ∈ unit.members.flatMap Node.walk, node.FitsLines) ∧ IsBalanced rows ∧
      rows[11]? = some "        string Close = \"a\\n\x7d\\n\";" ∧
      (8 : ℕ∞) = 4 * (enclosing rows 11).encard := by
  intro text inner unit rows
  have usings : ∀ name ∈ unit.usings, IsOneLine name := by decide
  have fits : ∀ node ∈ unit.members.flatMap Node.walk, node.FitsLines := by decide +kernel
  have isRow : rows[11]? = some "        string Close = \"a\\n\x7d\\n\";" := by
    show (Text.pieces '\n' unit.render)[11]? = _
    rw [pieces_render usings fits]
    decide +kernel
  obtain ⟨balanced, -, -, indented, -⟩ := render_indented usings fits
  exact ⟨usings, fits, balanced, isRow, indented 11 _ isRow (by decide)⟩

end TypedMvc.Declaration
