import Mathlib.Data.List.Basic
import TypedMvc.Proofs.DeclarationHeads
import TypedMvc.Proofs.LiteralEscapes

/-!
# Texts on lines of their own

What is written on a line stays there if none of its parts has a line feed. Literals never have one,
so it is the names, types and other expressions of a declaration that matter (`Node.FitsLines`). The
texts of its lines are more than a brace, and none begins with a blank, if its type does not
(`IsLineText`): a line begins with a bracket, a keyword or the type.
-/

namespace TypedMvc.Declaration

/-- A text that stays on the line that it is written on. -/
def IsOneLine (text : String) : Prop := '\n' ∉ text.toList

instance : DecidablePred IsOneLine := fun text => inferInstanceAs (Decidable ('\n' ∉ text.toList))

/-- A text for a line of its own: it is not indented and more than a brace. -/
structure IsLineText (text : String) : Prop where
  /-- It stays on the line. -/
  oneLine : IsOneLine text
  /-- It does not begin with a blank. -/
  unindented : text.toList.head? ≠ some ' '
  /-- It is longer than a brace. -/
  long : 2 ≤ text.toList.length

instance : DecidablePred IsLineText := fun text =>
  decidable_of_iff (IsOneLine text ∧ text.toList.head? ≠ some ' ' ∧ 2 ≤ text.toList.length)
    ⟨fun h => ⟨h.1, h.2.1, h.2.2⟩, fun h => ⟨h.oneLine, h.unindented, h.long⟩⟩

theorem isOneLine_append {a b : String} : IsOneLine (a ++ b) ↔ IsOneLine a ∧ IsOneLine b := by
  rw [IsOneLine, String.toList_append, List.mem_append, not_or]
  rfl

/-- Texts on one line are on one line together if what separates them is. -/
theorem isOneLine_join {separator : String} (between : IsOneLine separator) {texts : List String}
    (all : ∀ text ∈ texts, IsOneLine text) : IsOneLine (Text.join separator texts) := by
  induction texts with
  | nil => exact List.not_mem_nil
  | cons text rest ih =>
    obtain ⟨first, later⟩ := List.forall_mem_cons.mp all
    cases rest with
    | nil => exact first
    | cons next more =>
      show IsOneLine (text ++ separator ++ Text.join separator (next :: more))
      rw [isOneLine_append, isOneLine_append]
      exact ⟨⟨first, between⟩, ih later⟩

/-- No line feed is in a literal, whatever its text. -/
theorem isOneLine_literal (text : String) : IsOneLine (literal text) := by
  intro mem
  rw [literal, String.toList_ofList] at mem
  exact absurd (isControl_of_mem_literalChars mem) (by decide)

/-- An expression that stays on one line: a literal, or one without a line feed. -/
def Expr.FitsLine : Expr → Prop
  | .text _ => True
  | .create type => IsOneLine type
  | .member name => IsOneLine name

instance : DecidablePred Expr.FitsLine
  | .text _ => isTrue trivial
  | .create type => inferInstanceAs (Decidable (IsOneLine type))
  | .member name => inferInstanceAs (Decidable (IsOneLine name))

theorem Expr.FitsLine.isOneLine {value : Expr} (fits : value.FitsLine) :
    IsOneLine value.render := by
  cases value with
  | text value => exact isOneLine_literal value
  | create type =>
    show IsOneLine ("new " ++ type ++ "()")
    rw [isOneLine_append, isOneLine_append]
    exact ⟨⟨by decide, fits⟩, by decide⟩
  | member name => exact fits

/-- An attribute that stays on one line. -/
structure Attribute.FitsLine (a : Attribute) : Prop where
  /-- Its name has no line feed. -/
  name : IsOneLine a.name
  /-- Its arguments stay on the line. -/
  arguments : ∀ argument ∈ a.arguments, argument.FitsLine

instance : DecidablePred Attribute.FitsLine := fun a =>
  decidable_of_iff (IsOneLine a.name ∧ ∀ argument ∈ a.arguments, argument.FitsLine)
    ⟨fun h => ⟨h.1, h.2⟩, fun h => ⟨h.name, h.arguments⟩⟩

theorem Attribute.FitsLine.isOneLine {a : Attribute} (fits : a.FitsLine) :
    IsOneLine a.render := by
  rw [Attribute.render]
  split
  · exact fits.name
  · rw [isOneLine_append, isOneLine_append, isOneLine_append]
    have arguments : ∀ text ∈ a.arguments.map Expr.render, IsOneLine text := by
      rw [List.forall_mem_map]
      exact fun argument mem => (fits.arguments argument mem).isOneLine
    exact ⟨⟨⟨fits.name, by decide⟩, isOneLine_join (by decide) arguments⟩, by decide⟩

/-- A declaration that fits on its lines. -/
structure Node.FitsLines (node : Node) : Prop where
  /-- Its name has no line feed. -/
  name : IsOneLine node.name
  /-- Its attributes stay on one line. -/
  attributes : ∀ a ∈ node.attributes, a.FitsLine
  /-- The type of a field or a property is there, has no line feed and does not begin with a
  blank. -/
  type : ∀ type ∈ node.typeName?, IsOneLine type ∧ type ≠ "" ∧ type.toList.head? ≠ some ' '
  /-- What a field or a property holds stays on the line. -/
  value : ∀ value ∈ node.value?, value.FitsLine

instance : DecidablePred Node.FitsLines := fun node =>
  decidable_of_iff
    (IsOneLine node.name ∧ (∀ a ∈ node.attributes, a.FitsLine) ∧
      (∀ type ∈ node.typeName?, IsOneLine type ∧ type ≠ "" ∧ type.toList.head? ≠ some ' ') ∧
      ∀ value ∈ node.value?, value.FitsLine)
    ⟨fun h => ⟨h.1, h.2.1, h.2.2.1, h.2.2.2⟩, fun h => ⟨h.name, h.attributes, h.type, h.value⟩⟩

/-! ## The texts of lines -/

/-- The first character of a text stays the first one. -/
theorem head?_append_ne {front : String} (back : String) (nonempty : front ≠ "")
    (unindented : front.toList.head? ≠ some ' ') : (front ++ back).toList.head? ≠ some ' ' := by
  rw [String.toList_append, List.head?_append_of_ne_nil _ (mt String.toList_eq_nil_iff.mp nonempty)]
  exact unindented

theorem IsLineText.ne_empty {text : String} (isText : IsLineText text) : text ≠ "" := by
  rintro rfl
  exact absurd isText.long (by decide)

/-- A text for a line can go on. -/
theorem IsLineText.append {front back : String} (isText : IsLineText front)
    (oneLine : IsOneLine back) : IsLineText (front ++ back) := by
  refine ⟨isOneLine_append.mpr ⟨isText.oneLine, oneLine⟩,
    head?_append_ne back isText.ne_empty isText.unindented, ?_⟩
  rw [String.toList_append, List.length_append]
  exact Nat.le_trans isText.long (Nat.le_add_right _ _)

/-- A text for a line can have modifiers in front. -/
theorem isLineText_modifiers (modifiers : List Modifier) {text : String}
    (isText : IsLineText text) : IsLineText (renderModifiers modifiers ++ text) := by
  cases modifiers with
  | nil =>
    rw [renderModifiers, String.empty_append]
    exact isText
  | cons m rest =>
    have keyword : IsLineText (m.keyword ++ " ") := by cases m <;> decide
    rw [renderModifiers]
    exact (keyword.append (unbroken_renderModifiers rest)).append isText.oneLine

/-- A type with something behind it is a text for a line. -/
theorem isLineText_type {type rest : String}
    (isType : IsOneLine type ∧ type ≠ "" ∧ type.toList.head? ≠ some ' ')
    (oneLine : IsOneLine rest) : IsLineText (type ++ (" " ++ rest)) := by
  obtain ⟨typeLine, nonempty, unindented⟩ := isType
  rw [← String.append_assoc]
  refine IsLineText.append ⟨isOneLine_append.mpr ⟨typeLine, by decide⟩,
    head?_append_ne " " nonempty unindented, ?_⟩ oneLine
  have isThere : 0 < type.toList.length :=
    List.length_pos_iff.mpr (mt String.toList_eq_nil_iff.mp nonempty)
  rw [String.toList_append, List.length_append]
  exact Nat.add_le_add isThere (Nat.le_refl 1)

/-- Attributes in brackets are a text for a line. -/
theorem isLineText_brackets {text : String} (oneLine : IsOneLine text) :
    IsLineText ("[" ++ text ++ "]") := by
  have bracket : ("[" ++ text ++ "]").toList = '[' :: (text.toList ++ [']']) := by
    rw [String.toList_append, String.toList_append]
    rfl
  refine ⟨?_, ?_, ?_⟩
  · rw [isOneLine_append, isOneLine_append]
    exact ⟨⟨by decide, oneLine⟩, by decide⟩
  · rw [bracket, List.head?_cons]
    decide
  · rw [bracket, List.length_cons, List.length_append, List.length_singleton]
    omega

end TypedMvc.Declaration
