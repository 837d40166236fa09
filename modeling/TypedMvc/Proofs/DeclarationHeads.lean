import TypedMvc.Naming.Identifier
import TypedMvc.Proofs.LiteralEscapes
import TypedMvc.Proofs.SourceLines

/-!
# The line that says what is declared

A declaration begins with a line that has its modifiers, a word for its kind or its type, its name,
and its value if it has one (`headLine`). The words on it are made of characters that no sign behind
a word is taken from (`IsWord`), so the line can be read from the left: `headLine_inj` says that it
determines what is declared, the name and the modifiers. Of the values only the text in a literal is
arbitrary, and it shows its end by its quotation mark (`literalChars_append_inj`).
-/

namespace TypedMvc.Declaration

open Naming

/-! ## Words -/

/-- Whether a character can stand in a name or a type. -/
def isWordChar (c : Char) : Bool := continuesIdentifier c || ['@', ':', '.'].contains c

/-- A name or a type as it stands on a line: something without blanks, quotation marks, brackets
and such. -/
structure IsWord (word : String) : Prop where
  /-- There is something to read. -/
  nonempty : word ≠ ""
  /-- Nothing in the word ends it. -/
  chars : ∀ c ∈ word.toList, isWordChar c = true

instance (word : String) : Decidable (IsWord word) :=
  decidable_of_iff (word ≠ "" ∧ word.toList.all isWordChar = true)
    ⟨fun h => ⟨h.1, List.all_eq_true.mp h.2⟩, fun h => ⟨h.nonempty, List.all_eq_true.mpr h.chars⟩⟩

/-- The signs that stand behind words or in front of them, and the line feed. -/
def signs : List Char := [' ', '\n', ';', '(', '"', '[', '\x7d', '#']

/-- No sign can stand in a name or a type. -/
theorem isWordChar_sign {c : Char} (isSign : c ∈ signs) : isWordChar c = false := by
  have none : signs.all (fun c => !isWordChar c) = true := by decide +kernel
  simpa using List.all_eq_true.mp none c isSign

/-- A sign is not taken for a character of a word. -/
theorem sign_ne {sign c : Char} (isSign : sign ∈ signs) (isChar : isWordChar c = true) :
    sign ≠ c := by
  rintro rfl
  exact Bool.false_ne_true ((isWordChar_sign isSign).symm.trans isChar)

/-- A word begins with one of its characters. -/
theorem IsWord.exists_toList {word : String} (isWord : IsWord word) :
    ∃ c rest, word.toList = c :: rest ∧ isWordChar c = true := by
  cases chars : word.toList with
  | nil => exact absurd (String.toList_eq_nil_iff.mp chars) isWord.nonempty
  | cons c rest => exact ⟨c, rest, rfl, isWord.chars c (chars ▸ List.mem_cons_self)⟩

/-- A word can be read off the beginning of a text if a sign follows it. -/
theorem IsWord.append_inj {a b : String} (wordA : IsWord a) (wordB : IsWord b) {x y : List Char}
    (endsA : ∀ c ∈ x.head?, isWordChar c = false) (endsB : ∀ c ∈ y.head?, isWordChar c = false)
    (same : a.toList ++ x = b.toList ++ y) : a = b ∧ x = y := by
  obtain ⟨words, rests⟩ := append_inj_of_run wordA.chars wordB.chars endsA endsB same
  exact ⟨String.toList_injective words, rests⟩

/-- A sign at the beginning of a text ends the word in front of it. -/
theorem sign_ends {sign : Char} (isSign : sign ∈ signs) (rest : List Char) :
    ∀ c ∈ (sign :: rest).head?, isWordChar c = false := by
  rintro c ⟨⟩
  exact isWordChar_sign isSign

/-- There is no line feed in a word. -/
theorem IsWord.unbroken {word : String} (isWord : IsWord word) : '\n' ∉ word.toList :=
  fun mem => sign_ne (by decide) (isWord.chars _ mem) rfl

/-! ## Values -/

/-- A value whose type or name, if it has one, is a word. -/
def Expr.IsLegible : Expr → Prop
  | .text _ => True
  | .create type => IsWord type
  | .member name => IsWord name

/-- A text is written as its literal. -/
theorem Expr.toList_render_text (value : String) :
    (Expr.text value).render.toList = literalChars value.toList := String.toList_ofList

/-- A new instance is written as a word, its type and a pair of brackets. -/
theorem Expr.toList_render_create_append (type : String) (rest : List Char) :
    (Expr.create type).render.toList ++ rest =
      "new".toList ++ ' ' :: (type.toList ++ '(' :: ')' :: rest) := by
  simp [Expr.render]

/-- A literal begins with a quotation mark, so it is not taken for a word. -/
theorem literalChars_ne_word {word : String} (isWord : IsWord word) (text x y : List Char) :
    literalChars text ++ x ≠ word.toList ++ y := by
  intro same
  obtain ⟨c, rest, chars, isChar⟩ := isWord.exists_toList
  rw [chars] at same
  exact sign_ne (by decide) isChar (List.cons.inj same).1

/-- The word of a new instance. -/
theorem isWord_new : IsWord "new" := by decide +kernel

/-- A new instance is not taken for a member, even for one called `new`: a semicolon would follow
the name, not a blank. -/
theorem Expr.render_create_ne_member {name : String} (isWord : IsWord name) (type : String)
    (x y : List Char) :
    (Expr.create type).render.toList ++ x ≠ (Expr.member name).render.toList ++ ';' :: y := by
  intro same
  rw [toList_render_create_append] at same
  obtain ⟨-, rests⟩ :=
    isWord_new.append_inj isWord (sign_ends (by decide) _) (sign_ends (by decide) _) same
  exact absurd (List.cons.inj rests).1 (by decide)

/-- A value in front of a semicolon can be read off the beginning of a text. -/
theorem Expr.render_append_inj {v w : Expr} (legibleV : v.IsLegible) (legibleW : w.IsLegible)
    {x y : List Char} (same : v.render.toList ++ ';' :: x = w.render.toList ++ ';' :: y) :
    v = w ∧ x = y := by
  have blank : ' ' ∈ signs := by decide
  have semicolon : ';' ∈ signs := by decide
  have bracket : '(' ∈ signs := by decide
  -- A literal begins with a quotation mark, `new` is a word with a blank behind it, and the name of
  -- a member is one up to the semicolon.
  cases v with
  | text a =>
    rw [toList_render_text] at same
    cases w with
    | text b =>
      rw [toList_render_text] at same
      obtain ⟨texts, rests⟩ := literalChars_append_inj same
      rw [String.toList_injective texts]
      exact ⟨rfl, (List.cons.inj rests).2⟩
    | create u =>
      rw [toList_render_create_append] at same
      exact absurd same (literalChars_ne_word isWord_new _ _ _)
    | member n => exact absurd same (literalChars_ne_word legibleW _ _ _)
  | create t =>
    cases w with
    | text b =>
      rw [toList_render_create_append, toList_render_text] at same
      exact absurd same.symm (literalChars_ne_word isWord_new _ _ _)
    | create u =>
      rw [toList_render_create_append, toList_render_create_append] at same
      obtain ⟨-, types⟩ :=
        isWord_new.append_inj isWord_new (sign_ends blank _) (sign_ends blank _) same
      obtain ⟨rfl, rests⟩ := IsWord.append_inj legibleV legibleW (sign_ends bracket _)
        (sign_ends bracket _) (List.cons.inj types).2
      exact ⟨rfl, by simpa using rests⟩
    | member n => exact absurd same (render_create_ne_member legibleW t _ _)
  | member m =>
    cases w with
    | text b =>
      rw [toList_render_text] at same
      exact absurd same.symm (literalChars_ne_word legibleV _ _ _)
    | create u => exact absurd same.symm (render_create_ne_member legibleV u _ _)
    | member n =>
      obtain ⟨rfl, rests⟩ :=
        IsWord.append_inj legibleV legibleW (sign_ends semicolon _) (sign_ends semicolon _) same
      exact ⟨rfl, (List.cons.inj rests).2⟩

/-! ## Modifiers -/

/-- The words that stand for modifiers. -/
def modifierKeywords : List String :=
  [Modifier.publicModifier, .staticModifier, .readOnlyModifier, .constModifier,
    .partialModifier].map Modifier.keyword

/-- Every modifier is one of the five. -/
theorem keyword_mem_modifierKeywords (m : Modifier) : m.keyword ∈ modifierKeywords := by
  cases m <;> decide

/-- Modifiers are written with different words. -/
theorem Modifier.keyword_injective {m n : Modifier} (same : m.keyword = n.keyword) : m = n := by
  cases m <;> cases n <;> first | rfl | exact absurd same (by decide)

/-- Modifiers are written with words. -/
theorem Modifier.isWord_keyword (m : Modifier) : IsWord m.keyword := by
  have all : ∀ word ∈ modifierKeywords, IsWord word := by decide +kernel
  exact all _ (keyword_mem_modifierKeywords m)

/-- A word that does not stand for a modifier, so that it ends the modifiers in front of it. -/
structure IsType (type : String) : Prop where
  /-- It is a word. -/
  isWord : IsWord type
  /-- It is not read as a modifier. -/
  notModifier : type ∉ modifierKeywords

instance (type : String) : Decidable (IsType type) :=
  decidable_of_iff (IsWord type ∧ type ∉ modifierKeywords)
    ⟨fun h => ⟨h.1, h.2⟩, fun h => ⟨h.isWord, h.notModifier⟩⟩

/-- The first modifier is written as a word with a blank behind it. -/
theorem toList_renderModifiers_cons (m : Modifier) (rest : List Modifier) (x : List Char) :
    (renderModifiers (m :: rest)).toList ++ x =
      m.keyword.toList ++ ' ' :: ((renderModifiers rest).toList ++ x) := by
  simp [renderModifiers]

/-- Modifiers and the word behind them can be read off the beginning of a text. -/
theorem renderModifiers_append_inj {a b : List Modifier} {s t : String} (typeS : IsType s)
    (typeT : IsType t) {x y : List Char}
    (same : (renderModifiers a).toList ++ (s.toList ++ ' ' :: x) =
      (renderModifiers b).toList ++ (t.toList ++ ' ' :: y)) : a = b ∧ s = t ∧ x = y := by
  have blank : ' ' ∈ signs := by decide
  -- What is read as the word behind the modifiers is not the first modifier.
  have notFirst : ∀ {type : String} {m : Modifier} {rest : List Modifier} {x y : List Char},
      IsType type → type.toList ++ ' ' :: x ≠ (renderModifiers (m :: rest)).toList ++ y := by
    intro type m rest x y isType same
    rw [toList_renderModifiers_cons] at same
    obtain ⟨rfl, -⟩ :=
      isType.isWord.append_inj m.isWord_keyword (sign_ends blank _) (sign_ends blank _) same
    exact isType.notModifier (keyword_mem_modifierKeywords m)
  induction a generalizing b with
  | nil =>
    cases b with
    | nil =>
      obtain ⟨words, rests⟩ :=
        typeS.isWord.append_inj typeT.isWord (sign_ends blank _) (sign_ends blank _) same
      exact ⟨rfl, words, (List.cons.inj rests).2⟩
    | cons n b => exact absurd same (notFirst typeS)
  | cons m a ih =>
    cases b with
    | nil => exact absurd same.symm (notFirst typeT)
    | cons n b =>
      rw [toList_renderModifiers_cons, toList_renderModifiers_cons] at same
      obtain ⟨keywords, rests⟩ := m.isWord_keyword.append_inj n.isWord_keyword
        (sign_ends blank _) (sign_ends blank _) same
      obtain ⟨rfl, words, texts⟩ := ih (List.cons.inj rests).2
      exact ⟨by rw [Modifier.keyword_injective keywords], words, texts⟩

/-! ## The whole line -/

/-- The word in front of the name: the kind of a declaration that has a block, and the type of one
that has none. -/
def Content.leading : Content → String
  | .ofNamespace => "namespace"
  | .ofClass => "class"
  | .ofField type _ | .ofProperty type _ => type

/-- What stands behind the name: the value of a field or what a property returns. -/
def Content.trailing : Content → List Char
  | .ofNamespace | .ofClass => []
  | .ofField _ value => ' ' :: '=' :: ' ' :: (value.render.toList ++ [';'])
  | .ofProperty _ getter =>
    ' ' :: '\x7b' :: (" get \x7b return ".toList ++
      (getter.render.toList ++ ';' :: " \x7d \x7d".toList))

/-- The line with the modifiers and the name of a declaration. -/
def headLine (content : Content) (name : String) (modifiers : List Modifier) : String :=
  renderModifiers modifiers ++ content.leading ++ " " ++ name ++ String.ofList content.trailing

/-- A declaration whose type is no modifier, and with a value that can be read. -/
def Content.IsLegible : Content → Prop
  | .ofNamespace | .ofClass => True
  | .ofField type value | .ofProperty type value => IsType type ∧ value.IsLegible

/-- The word in front of the name of a legible declaration ends its modifiers. -/
theorem Content.IsLegible.isType_leading {content : Content} (legible : content.IsLegible) :
    IsType content.leading := by
  cases content with
  | ofNamespace => decide +kernel
  | ofClass => decide +kernel
  | ofField type value => exact legible.1
  | ofProperty type getter => exact legible.1

/-- The characters of the line in the order in which they are read. -/
theorem toList_headLine (content : Content) (name : String) (modifiers : List Modifier) :
    (headLine content name modifiers).toList = (renderModifiers modifiers).toList ++
      (content.leading.toList ++ ' ' :: (name.toList ++ content.trailing)) := by
  simp [headLine]

/-- If there is something behind the name, a blank separates them. -/
theorem Content.trailing_ends (content : Content) :
    ∀ c ∈ content.trailing.head?, isWordChar c = false := by
  have blank : ' ' ∈ signs := by decide
  cases content with
  | ofNamespace => exact nofun
  | ofClass => exact nofun
  | ofField type value => exact sign_ends blank _
  | ofProperty type getter => exact sign_ends blank _

/-- What stands in front of the name and behind it says what is declared. -/
theorem Content.IsLegible.eq_of_sides {a b : Content} (legibleA : a.IsLegible)
    (legibleB : b.IsLegible) (leading : a.leading = b.leading)
    (trailing : a.trailing = b.trailing) : a = b := by
  cases a <;> cases b
  case ofNamespace.ofNamespace => rfl
  case ofClass.ofClass => rfl
  case ofField.ofField type value type' value' =>
    obtain rfl : type = type' := leading
    have values := (List.cons.inj (List.cons.inj (List.cons.inj trailing).2).2).2
    obtain ⟨rfl, -⟩ := Expr.render_append_inj legibleA.2 legibleB.2 values
    rfl
  case ofProperty.ofProperty type getter type' getter' =>
    obtain rfl : type = type' := leading
    have values := List.append_cancel_left (List.cons.inj (List.cons.inj trailing).2).2
    obtain ⟨rfl, -⟩ := Expr.render_append_inj legibleA.2 legibleB.2 values
    rfl
  -- The others differ in the word for their kind or in the sign behind their name.
  case ofNamespace.ofClass => exact absurd leading (by decide)
  case ofClass.ofNamespace => exact absurd leading (by decide)
  case ofField.ofProperty =>
    exact absurd (List.cons.inj (List.cons.inj trailing).2).1 (by decide)
  case ofProperty.ofField =>
    exact absurd (List.cons.inj (List.cons.inj trailing).2).1 (by decide)
  all_goals exact absurd trailing nofun

/-- A line says what is declared, under which name, and with which modifiers. -/
theorem headLine_inj {a b : Content} {name name' : String} {modifiers modifiers' : List Modifier}
    (legibleA : a.IsLegible) (legibleB : b.IsLegible) (wordA : IsWord name) (wordB : IsWord name')
    (same : headLine a name modifiers = headLine b name' modifiers') :
    a = b ∧ name = name' ∧ modifiers = modifiers' := by
  have chars := congrArg String.toList same
  rw [toList_headLine, toList_headLine] at chars
  obtain ⟨sameModifiers, leading, rests⟩ := renderModifiers_append_inj legibleA.isType_leading
    legibleB.isType_leading chars
  obtain ⟨names, trailing⟩ := wordA.append_inj wordB a.trailing_ends b.trailing_ends rests
  exact ⟨legibleA.eq_of_sides legibleB leading trailing, names, sameModifiers⟩

/-! ## The line is one line -/

/-- There is no line feed in a value. -/
theorem Expr.IsLegible.unbroken {value : Expr} (legible : value.IsLegible) :
    '\n' ∉ value.render.toList := by
  cases value with
  | text a =>
    rw [Expr.toList_render_text]
    intro mem
    exact absurd (isControl_of_mem_literalChars mem) (by decide)
  | create type =>
    rw [← List.append_nil (Expr.render _).toList, Expr.toList_render_create_append]
    simp only [List.mem_append, List.mem_cons, not_or]
    exact ⟨by decide, by decide, IsWord.unbroken legible, by decide, by decide, List.not_mem_nil⟩
  | member name => exact IsWord.unbroken legible

/-- There is no line feed behind the name. -/
theorem Content.IsLegible.unbroken_trailing {content : Content} (legible : content.IsLegible) :
    '\n' ∉ content.trailing := by
  cases content with
  | ofNamespace => exact List.not_mem_nil
  | ofClass => exact List.not_mem_nil
  | ofField type value =>
    simp only [trailing, List.mem_cons, List.mem_append, not_or]
    exact ⟨by decide, by decide, by decide, legible.2.unbroken, by decide, List.not_mem_nil⟩
  | ofProperty type getter =>
    simp only [trailing, List.mem_cons, List.mem_append, not_or]
    exact ⟨by decide, by decide, by decide, legible.2.unbroken, by decide, by decide⟩

/-- There is no line feed in modifiers. -/
theorem unbroken_renderModifiers (modifiers : List Modifier) :
    '\n' ∉ (renderModifiers modifiers).toList := by
  induction modifiers with
  | nil => exact List.not_mem_nil
  | cons m rest ih =>
    rw [← List.append_nil (renderModifiers _).toList, toList_renderModifiers_cons,
      List.append_nil, List.mem_append, List.mem_cons, not_or, not_or]
    exact ⟨m.isWord_keyword.unbroken, by decide, ih⟩

/-- There is no line feed in the line with the modifiers and the name. -/
theorem unbroken_headLine {content : Content} (legible : content.IsLegible) {name : String}
    (isWord : IsWord name) (modifiers : List Modifier) :
    '\n' ∉ (headLine content name modifiers).toList := by
  rw [toList_headLine]
  simp only [List.mem_append, List.mem_cons, not_or]
  exact ⟨unbroken_renderModifiers modifiers, legible.isType_leading.isWord.unbroken, by decide,
    isWord.unbroken, legible.unbroken_trailing⟩

/-- The line with the modifiers and the name begins with a word. -/
theorem exists_toList_headLine {content : Content} (legible : content.IsLegible) (name : String)
    (modifiers : List Modifier) :
    ∃ c rest, (headLine content name modifiers).toList = c :: rest ∧ isWordChar c = true := by
  rw [toList_headLine]
  cases modifiers with
  | nil =>
    obtain ⟨c, rest, chars, isChar⟩ := legible.isType_leading.isWord.exists_toList
    exact ⟨c, _, by rw [chars]; rfl, isChar⟩
  | cons m modifiers =>
    obtain ⟨c, rest, chars, isChar⟩ := m.isWord_keyword.exists_toList
    exact ⟨c, _, by rw [toList_renderModifiers_cons, chars]; rfl, isChar⟩

end TypedMvc.Declaration
