import Mathlib.Data.List.TakeWhile
import TypedMvc.Proofs.LexicalIdentifiers
import TypedMvc.Symbols.Extract

/-!
# The simple name of a type

A type is referred to by an alias, namespaces and enclosing types in front of its own name, and each
of the names that are no alias can have type arguments (`TypeName`). The text is cut at the first
angle bracket before its last name is looked for. So `simpleName` finds the name of the first
segment that has type arguments, and the last name only if none has: `simpleName_text_iff`
says exactly when the two are the same.

What is in front of the name found is nothing, or it ends with a full stop or with the colons behind
an alias (`EndsName`). Trimming keeps that, and both searches for the last name pass over such a
text without keeping any of it (`lastName_eq_nil`).
-/

namespace TypedMvc.Symbols

open Unicode Naming

/-! ## References to types -/

/-- Whether a character can stand in a name: it is no white space, and the text of a type is not cut
at it. -/
def isNameChar (c : Char) : Bool :=
  !isWhiteSpace c && c != '<' && c != '(' && c != '.' && c != ':'

/-- A name with the white space around it. -/
structure SpacedName where
  /-- The white space in front. -/
  ahead : List Char
  /-- The name. -/
  name : List Char
  /-- The white space behind. -/
  behind : List Char
  /-- The name is not empty. -/
  ne_nil : name ≠ []
  /-- The name has no character that would end it. -/
  unbroken : ∀ c ∈ name, isNameChar c = true
  /-- There is nothing but white space around the name. -/
  blank : ∀ c ∈ ahead ++ behind, isWhiteSpace c = true

/-- The text of a name with the white space around it. -/
def SpacedName.text (name : SpacedName) : List Char := name.ahead ++ name.name ++ name.behind

/-- Whether every angle bracket that is opened in a text is closed, and no other, with some open in
front of it. -/
def isBalanced : ℕ → List Char → Bool
  | depth, [] => depth == 0
  | depth, '<' :: rest => isBalanced (depth + 1) rest
  | 0, '>' :: _ => false
  | depth + 1, '>' :: rest => isBalanced depth rest
  | depth, _ :: rest => isBalanced depth rest

/-- A list of type arguments with the white space behind it. -/
structure ArgumentList where
  /-- The text between the brackets. -/
  inner : List Char
  /-- The white space behind. -/
  behind : List Char
  /-- The bracket in front is closed by the one behind. -/
  balanced : isBalanced 0 inner = true
  /-- There is nothing but white space behind. -/
  blank : ∀ c ∈ behind, isWhiteSpace c = true

/-- The text of a list of type arguments. -/
def ArgumentList.text (arguments : ArgumentList) : List Char :=
  '<' :: arguments.inner ++ '>' :: arguments.behind

/-- A name with or without type arguments. -/
structure Segment where
  /-- The name. -/
  head : SpacedName
  /-- The type arguments, if there are some. -/
  arguments : Option ArgumentList

namespace Segment

/-- The identifier of a segment. -/
def identifier (segment : Segment) : String := String.ofList segment.head.name

/-- Whether a segment has type arguments. -/
def isGeneric (segment : Segment) : Bool := segment.arguments.isSome

/-- The text of a segment. -/
def text (segment : Segment) : List Char :=
  segment.head.text ++ (segment.arguments.map ArgumentList.text).getD []

end Segment

/-- A reference to a type. -/
structure TypeName where
  /-- The alias in front, if there is one. -/
  aliasName : Option SpacedName
  /-- The namespaces and types that the type is in. -/
  qualifiers : List Segment
  /-- The type itself. -/
  last : Segment

namespace TypeName

/-- The alias and the colons behind it. -/
def aliasChars (type : TypeName) : List Char :=
  (type.aliasName.map fun name => name.text ++ [':', ':']).getD []

/-- The characters of a reference to a type. -/
def chars (type : TypeName) : List Char :=
  type.aliasChars ++ type.qualifiers.flatMap (fun segment => segment.text ++ ['.']) ++
    type.last.text

/-- The text of a reference to a type. -/
def text (type : TypeName) : String := String.ofList type.chars

/-- The segment that the text is cut behind: the first one with type arguments, or the last one. -/
def cutSegment (type : TypeName) : Segment :=
  (type.qualifiers.find? Segment.isGeneric).getD type.last

/-- The qualifiers in front of the segment that the text is cut behind. -/
def passed (type : TypeName) : List Segment :=
  type.qualifiers.takeWhile fun segment => !segment.isGeneric

/-- The part of the text in front of the name of the segment that it is cut behind. -/
def front (type : TypeName) : List Char :=
  type.aliasChars ++ type.passed.flatMap fun segment => segment.head.text ++ ['.']

end TypeName

/-! ## Characters of names -/

/-- The characters that end a name. -/
def nameEnds : Ranges := [
  (9, 13), (32, 32), (40, 40), (46, 46), (58, 58), (60, 60), (133, 133), (160, 160), (5760, 5760),
  (8192, 8202), (8232, 8233), (8239, 8239), (8287, 8287), (12288, 12288)]

/-- A character that cannot stand in a name is one of those that end it. -/
theorem nameEnds_of_not_isNameChar {c : Char} (ends : isNameChar c = false) :
    nameEnds.has c = true := by
  simp only [isNameChar, isWhiteSpace, Bool.and_eq_false_iff, Bool.not_eq_false', Bool.or_eq_true,
    Bool.and_eq_true, decide_eq_true_eq, beq_iff_eq, bne_eq_false_iff_eq, or_assoc] at ends
  have tabs : '\t' ≤ c ∧ c ≤ '\r' → nameEnds.has c = true := fun bounds =>
    Ranges.has_iff.mpr ⟨(9, 13), by decide, bounds⟩
  have spaces : '\u2000' ≤ c ∧ c ≤ '\u200a' → nameEnds.has c = true := fun bounds =>
    Ranges.has_iff.mpr ⟨(8192, 8202), by decide, bounds⟩
  -- All others are single characters, which are found in the table.
  rcases ends with bounds | rfl | rfl | rfl | rfl | bounds | rfl | rfl | rfl | rfl | rfl | rfl |
    rfl | rfl | rfl
  · exact tabs bounds
  all_goals first | exact spaces bounds | decide

/-- What goes on with an identifier can stand in a name. -/
theorem isNameChar_of_continuesLexical {c : Char} (continues : continuesLexical c = true) :
    isNameChar c = true := by
  have apart : (classes ++ [nameEnds]).Pairwise Ranges.Apart :=
    Ranges.pairwise_apart_of_isChain (by decide +kernel)
  have clear := fun ranges mem => (List.pairwise_append.mp apart).2.2 ranges mem nameEnds
    List.mem_cons_self c
  simp only [classes, List.forall_mem_cons] at clear
  simp only [continuesLexical, Bool.or_eq_true] at continues
  by_contra ends
  -- None of the classes that the character may be in has a character that ends a name.
  have stops : nameEnds.has c = true := nameEnds_of_not_isNameChar (Bool.not_eq_true _ ▸ ends)
  grind

/-- An identifier is not empty and has no character that would end a name, and neither is the sign
in front of one that is written like a keyword. -/
theorem isNameChar_of_isLexicalIdentifier {name : String}
    (ident : isLexicalIdentifier name = true) :
    name.toList ≠ [] ∧ ∀ c ∈ '@' :: name.toList, isNameChar c = true := by
  unfold isLexicalIdentifier at ident
  cases chars : name.toList with
  | nil => simp [chars] at ident
  | cons first rest =>
    simp only [chars, Bool.and_eq_true, List.all_eq_true] at ident
    obtain ⟨⟨begins, continues⟩, -⟩ := ident
    have goesOn : continuesLexical first = true := continuesLexical_of_begins begins
    refine ⟨List.cons_ne_nil first rest, List.forall_mem_cons.mpr ⟨by decide, ?_⟩⟩
    exact List.forall_mem_cons.mpr ⟨isNameChar_of_continuesLexical goesOn, fun c mem =>
      isNameChar_of_continuesLexical (continues c mem)⟩

/-- An identifier as a name without white space around it. -/
def SpacedName.ofIdentifier (name : String) (ident : isLexicalIdentifier name = true) :
    SpacedName where
  ahead := []
  name := name.toList
  behind := []
  ne_nil := (isNameChar_of_isLexicalIdentifier ident).1
  unbroken := (List.forall_mem_cons.mp (isNameChar_of_isLexicalIdentifier ident).2).2
  blank := List.forall_mem_nil _

/-- A character of a name is no white space, and none that the text of a type is cut at. -/
theorem isNameChar_iff {c : Char} :
    isNameChar c = true ↔
      isWhiteSpace c = false ∧ c ≠ '<' ∧ c ≠ '(' ∧ c ≠ '.' ∧ c ≠ ':' := by
  simp [isNameChar, and_assoc]

/-- White space is none of the characters that the text of a type is cut at. -/
theorem ne_of_isWhiteSpace {c : Char} (white : isWhiteSpace c = true) :
    c ≠ '<' ∧ c ≠ '(' ∧ c ≠ '.' ∧ c ≠ ':' := by
  refine ⟨?_, ?_, ?_, ?_⟩ <;> rintro rfl <;> exact absurd white (by decide)

/-! ## Trimming in front of a word -/

/-- Leaving out white space in front stops at a word. -/
theorem dropWhile_append_word {word : List Char} (ne_nil : word ≠ [])
    (solid : ∀ c ∈ word, isWhiteSpace c = false) (front rest : List Char) :
    (front ++ (word ++ rest)).dropWhile isWhiteSpace =
      front.dropWhile isWhiteSpace ++ (word ++ rest) := by
  obtain ⟨c, word, rfl⟩ := List.exists_cons_of_ne_nil ne_nil
  have stop : isWhiteSpace c = false := solid c List.mem_cons_self
  rw [List.dropWhile_append]
  split
  next empty =>
    rw [List.isEmpty_iff.mp empty, List.nil_append, List.cons_append, List.dropWhile_cons, stop]
    rfl
  next => rfl

/-- A text that has a word at its end but for white space, trimmed, ends with the word. -/
theorem trimChars_append_word {word behind : List Char} (ne_nil : word ≠ [])
    (solid : ∀ c ∈ word, isWhiteSpace c = false) (blank : ∀ c ∈ behind, isWhiteSpace c = true)
    (front : List Char) :
    trimChars (front ++ (word ++ behind)) = front.dropWhile isWhiteSpace ++ word := by
  have reversed := dropWhile_append_word (List.reverse_eq_nil_iff.not.mpr ne_nil)
    (fun c mem => solid c (List.mem_reverse.mp mem)) behind.reverse
    (front.dropWhile isWhiteSpace).reverse
  have gone : behind.reverse.dropWhile isWhiteSpace = [] :=
    List.dropWhile_eq_nil_iff.mpr fun c mem => blank c (List.mem_reverse.mp mem)
  rw [gone, List.nil_append] at reversed
  rw [trimChars, dropWhile_append_word ne_nil solid, List.reverse_append, List.reverse_append,
    List.append_assoc, reversed, List.reverse_append, List.reverse_reverse, List.reverse_reverse]

/-! ## The last name -/

/-- The part of a text behind the last alias and behind the last full stop. -/
def lastName (text : List Char) : List Char := Text.afterLast '.' (afterAlias text)

/-- Whether a text can stand in front of a name without being part of it: there is none, or it ends
with what separates names. -/
def EndsName (text : List Char) : Prop := text = [] ∨ ['.'] <:+ text ∨ [':', ':'] <:+ text

/-- Looking for colons from the end, what was passed before stays behind what is found. -/
theorem afterAlias_go_eq_append (after rest : List Char) :
    afterAlias.go after rest = afterAlias.go [] rest ++ after := by
  induction rest generalizing after with
  | nil => rfl
  | cons c rest ih =>
    by_cases colons : ∃ others, c = ':' ∧ rest = ':' :: others
    · -- The search ends here, whatever was passed.
      obtain ⟨others, rfl, rfl⟩ := colons
      rfl
    · have step (passed : List Char) :
          afterAlias.go passed (c :: rest) = afterAlias.go (c :: passed) rest :=
        afterAlias.go.eq_2 passed c rest fun others isColon next =>
          colons ⟨others, isColon, next⟩
      rw [step after, step [], ih (c :: after), ih [c], List.append_assoc, List.singleton_append]

/-- Looking for colons from the end passes over a text without one. -/
theorem afterAlias_go_append {word : List Char} (clear : ∀ c ∈ word, c ≠ ':')
    (after rest : List Char) :
    afterAlias.go after (word ++ rest) = afterAlias.go (word.reverse ++ after) rest := by
  induction word generalizing after with
  | nil => rfl
  | cons c word ih =>
    obtain ⟨notColon, clear⟩ := List.forall_mem_cons.mp clear
    have step : afterAlias.go after (c :: (word ++ rest)) =
        afterAlias.go (c :: after) (word ++ rest) :=
      afterAlias.go.eq_2 after c _ fun _ isColon => absurd isColon notColon
    rw [List.cons_append, step, ih clear, List.reverse_cons, List.append_assoc,
      List.singleton_append]

/-- A text without colons stays behind what is found in front of it. -/
theorem afterAlias_append {word : List Char} (clear : ∀ c ∈ word, c ≠ ':') (front : List Char) :
    afterAlias (front ++ word) = afterAlias front ++ word := by
  have passed : ∀ c ∈ word.reverse, c ≠ ':' := fun c mem => clear c (List.mem_reverse.mp mem)
  calc afterAlias (front ++ word)
      = afterAlias.go [] (word.reverse ++ front.reverse) := by rw [afterAlias, List.reverse_append]
    _ = afterAlias.go word front.reverse := by
        rw [afterAlias_go_append passed, List.reverse_reverse, List.append_nil]
    _ = afterAlias front ++ word := afterAlias_go_eq_append word front.reverse

/-- A text without colons and full stops stays behind what is found in front of it. -/
theorem lastName_append {word : List Char} (clear : ∀ c ∈ word, c ≠ '.' ∧ c ≠ ':')
    (front : List Char) : lastName (front ++ word) = lastName front ++ word := by
  have behindAlias : afterAlias (front ++ word) = afterAlias front ++ word :=
    afterAlias_append (fun c mem => (clear c mem).2) front
  have passed : ∀ c ∈ word.reverse, decide (c ≠ '.') = true := fun c mem =>
    decide_eq_true (clear c (List.mem_reverse.mp mem)).1
  rw [lastName, behindAlias, Text.afterLast, List.reverse_append,
    List.takeWhile_append_of_pos passed, List.reverse_append, List.reverse_reverse, lastName,
    Text.afterLast]

/-- Nothing is found in a text that ends with what separates names. -/
theorem lastName_eq_nil {text : List Char} (ends : EndsName text) : lastName text = [] := by
  rcases ends with rfl | ⟨front, rfl⟩ | ⟨front, rfl⟩
  · rfl
  · -- The search for colons passes over the full stop, and that for full stops ends there.
    have behindAlias : afterAlias (front ++ ['.']) = afterAlias front ++ ['.'] :=
      afterAlias_append (List.forall_mem_singleton.mpr (by decide)) front
    rw [lastName, behindAlias, Text.afterLast, List.reverse_append]
    rfl
  · rw [lastName, afterAlias, List.reverse_append]
    rfl

/-- A text that ends with what separates names still does without white space in front. -/
theorem EndsName.dropWhile {text : List Char} (ends : EndsName text) :
    EndsName (text.dropWhile isWhiteSpace) := by
  rcases ends with rfl | ⟨front, rfl⟩ | ⟨front, rfl⟩
  · exact Or.inl rfl
  · have solid : ∀ c ∈ ['.'], isWhiteSpace c = false := List.forall_mem_singleton.mpr (by decide)
    have kept := dropWhile_append_word (List.cons_ne_nil '.' []) solid front []
    exact Or.inr (Or.inl ⟨front.dropWhile isWhiteSpace, by simpa using kept.symm⟩)
  · have solid : ∀ c ∈ [':', ':'], isWhiteSpace c = false :=
      List.forall_mem_cons.mpr ⟨by decide, List.forall_mem_singleton.mpr (by decide)⟩
    have kept := dropWhile_append_word (List.cons_ne_nil ':' [':']) solid front []
    exact Or.inr (Or.inr ⟨front.dropWhile isWhiteSpace, by simpa using kept.symm⟩)

/-- The last name of a text, trimmed, is the name that the text ends with but for white space. -/
theorem trimChars_lastName {front : List Char} (ends : EndsName front) (name : SpacedName) :
    trimChars (lastName (trimChars (front ++ name.text))) = name.name := by
  have clear := fun c mem => isNameChar_iff.mp (name.unbroken c mem)
  have solid : ∀ c ∈ name.name, isWhiteSpace c = false := fun c mem => (clear c mem).1
  obtain ⟨blankAhead, blankBehind⟩ := List.forall_mem_append.mp name.blank
  -- Trimming takes off the white space ahead of the name only if there is nothing in front.
  obtain ⟨gap, blankGap, dropped⟩ : ∃ gap, (∀ c ∈ gap, isWhiteSpace c = true) ∧
      (front ++ name.ahead).dropWhile isWhiteSpace = front.dropWhile isWhiteSpace ++ gap := by
    rw [List.dropWhile_append]
    split
    next empty =>
      exact ⟨[], by simp, by
        rw [List.isEmpty_iff.mp empty, List.dropWhile_eq_nil_iff.mpr blankAhead]; rfl⟩
    next => exact ⟨name.ahead, blankAhead, rfl⟩
  have trimmed : trimChars (front ++ name.text) =
      front.dropWhile isWhiteSpace ++ (gap ++ name.name) := by
    have split : front ++ name.text = (front ++ name.ahead) ++ (name.name ++ name.behind) := by
      simp [SpacedName.text]
    rw [split, trimChars_append_word name.ne_nil solid blankBehind, dropped, List.append_assoc]
  have word : ∀ c ∈ gap ++ name.name, c ≠ '.' ∧ c ≠ ':' := List.forall_mem_append.mpr
    ⟨fun c mem => (ne_of_isWhiteSpace (blankGap c mem)).2.2, fun c mem => (clear c mem).2.2.2⟩
  have whole := trimChars_append_word name.ne_nil solid (List.forall_mem_nil _) gap
  rw [List.append_nil, List.dropWhile_eq_nil_iff.mpr blankGap, List.nil_append] at whole
  rw [trimmed, lastName_append word, lastName_eq_nil ends.dropWhile, List.nil_append, whole]

/-! ## Cutting the text -/

/-- Whether a character is neither an angle bracket nor a round one, at which the text of a type is
cut first. -/
def isBare (c : Char) : Bool := c ≠ '<' && c ≠ '('

/-- The text is not cut in a name or in the white space around it. -/
theorem SpacedName.isBare_of_mem_text (name : SpacedName) : ∀ c ∈ name.text, isBare c = true := by
  have bare {c : Char} (notAngle : c ≠ '<') (notRound : c ≠ '(') : isBare c = true := by
    simp [isBare, notAngle, notRound]
  intro c mem
  rw [SpacedName.text, List.append_assoc, List.mem_append, List.mem_append] at mem
  have around : c ∈ name.ahead ++ name.behind → isBare c = true := fun mem =>
    bare (ne_of_isWhiteSpace (name.blank c mem)).1 (ne_of_isWhiteSpace (name.blank c mem)).2.1
  rcases mem with ahead | inside | behind
  · exact around (List.mem_append_left _ ahead)
  · obtain ⟨-, notAngle, notRound, -⟩ := isNameChar_iff.mp (name.unbroken c inside)
    exact bare notAngle notRound
  · exact around (List.mem_append_right _ behind)

/-- The text is cut behind the name of a segment with type arguments, and goes on behind another
segment. -/
theorem Segment.takeWhile_text_append (segment : Segment) (rest : List Char) :
    (segment.text ++ rest).takeWhile isBare =
      segment.head.text ++ bif segment.isGeneric then [] else rest.takeWhile isBare := by
  rw [Segment.text, List.append_assoc,
    List.takeWhile_append_of_pos segment.head.isBare_of_mem_text, Segment.isGeneric]
  cases segment.arguments with
  | none => rfl
  | some arguments => rfl

/-- Segments with full stops between them are cut behind the name of the first one with type
arguments, or nowhere. -/
theorem takeWhile_segments (qualifiers : List Segment) (last : Segment) :
    (qualifiers.flatMap (fun segment => segment.text ++ ['.']) ++ last.text).takeWhile isBare =
      (qualifiers.takeWhile fun segment => !segment.isGeneric).flatMap
          (fun segment => segment.head.text ++ ['.']) ++
        ((qualifiers.find? Segment.isGeneric).getD last).head.text := by
  induction qualifiers with
  | nil =>
    have cut := last.takeWhile_text_append []
    rw [List.append_nil, List.takeWhile_nil, Bool.cond_self, List.append_nil] at cut
    exact cut
  | cons segment rest ih =>
    have stop : isBare '.' = true := rfl
    rw [List.flatMap_cons, List.append_assoc, List.append_assoc, segment.takeWhile_text_append,
      List.singleton_append, List.takeWhile_cons, stop, ih]
    -- Only behind a segment without type arguments does the text go on.
    cases generic : segment.isGeneric with
    | true =>
      rw [List.takeWhile_cons, generic, List.find?_cons, generic]
      exact List.append_nil _
    | false =>
      rw [List.takeWhile_cons, generic, List.find?_cons, generic]
      simp

namespace TypeName

/-- The text of a reference is cut behind the name of its first segment with type arguments, or
nowhere. -/
theorem takeWhile_chars (type : TypeName) :
    type.chars.takeWhile isBare = type.front ++ type.cutSegment.head.text := by
  have bareAlias : ∀ c ∈ type.aliasChars, isBare c = true := by
    unfold aliasChars
    cases type.aliasName with
    | none => exact List.forall_mem_nil _
    | some name =>
      exact List.forall_mem_append.mpr ⟨name.isBare_of_mem_text,
        List.forall_mem_cons.mpr ⟨rfl, List.forall_mem_singleton.mpr rfl⟩⟩
  rw [chars, List.append_assoc, List.takeWhile_append_of_pos bareAlias, takeWhile_segments,
    ← List.append_assoc]
  rfl

/-- What is in front of the segment that the text is cut behind can stand in front of a name. -/
theorem endsName_front (type : TypeName) : EndsName type.front := by
  unfold front
  rcases List.eq_nil_or_concat type.passed with passed | ⟨others, segment, passed⟩
  · rw [passed, List.flatMap_nil, List.append_nil, aliasChars]
    cases type.aliasName with
    | none => exact Or.inl rfl
    | some name => exact Or.inr (Or.inr ⟨name.text, rfl⟩)
  · refine Or.inr (Or.inl ⟨type.aliasChars ++ (others.flatMap (fun segment =>
      segment.head.text ++ ['.']) ++ segment.head.text), ?_⟩)
    simp [passed]

/-- The simple name in a reference to a type is the name that the text is cut behind. -/
theorem simpleName_text (type : TypeName) :
    simpleName type.text = type.cutSegment.identifier := by
  have found : simpleName type.text =
      String.ofList (trimChars (lastName (trimChars (type.chars.takeWhile isBare)))) := by
    rw [simpleName, text, String.toList_ofList]
    rfl
  rw [found, type.takeWhile_chars, trimChars_lastName type.endsName_front, Segment.identifier]

/-- The simple name in a reference to a type is the name of the first segment with type arguments,
or the last name if no segment in front of it has any. So it is the last name exactly if the first
qualifier with type arguments, if there is one, happens to be called the same. -/
theorem simpleName_text_iff (type : TypeName) :
    simpleName type.text = type.cutSegment.identifier ∧
      (simpleName type.text = type.last.identifier ↔
        ∀ segment, type.qualifiers.find? Segment.isGeneric = some segment →
          segment.identifier = type.last.identifier) := by
  refine ⟨type.simpleName_text, ?_⟩
  rw [type.simpleName_text, cutSegment]
  cases type.qualifiers.find? Segment.isGeneric with
  | none => simp
  | some segment => simp

example : simpleName "global::Mvc.Area.Controller<List<int>>" = "Controller" := by decide

/-- The type `Controller` in the type `Outer<int>`. -/
def insideGeneric : TypeName where
  aliasName := none
  qualifiers := [{
    head := .ofIdentifier "Outer" (by decide +kernel)
    arguments := some ⟨"int".toList, [], by decide, List.forall_mem_nil _⟩ }]
  last := ⟨.ofIdentifier "Controller" (by decide +kernel), none⟩

/-- A type that is in a type with type arguments is found under the name of that one. -/
theorem insideGeneric_found_as_outer :
    insideGeneric.text = "Outer<int>.Controller" ∧ insideGeneric.last.identifier = "Controller" ∧
      simpleName insideGeneric.text = "Outer" := by
  decide

end TypeName

end TypedMvc.Symbols
