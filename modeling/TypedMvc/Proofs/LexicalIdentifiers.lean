import TypedMvc.Proofs.CharacterClasses
import TypedMvc.Proofs.LetterCase
import TypedMvc.Proofs.MemberNames
import TypedMvc.Settings.Validity

/-!
# Identifiers of the lexical grammar

The lexical grammar says by general categories which characters begin an identifier and which go on
with it (`isLexicalIdentifier`), while `isIdentifier` goes by the properties Alphabetic and Numeric.
These take in more: fractions and raised digits, letters in circles and squares, and in front also
the alphabetic marks. An identifier that stays clear of those (`staysLexical`) is one of the
grammar, and no other is (`isLexicalIdentifier_iff`). What is accepted as it stands is used as it
stands: `lexical_names_iff` says the same of the names in a valid configuration and of what becomes
of any text that a member stands for.
-/

namespace TypedMvc.Naming

open Unicode

/-! ## The grammar -/

/-- Whether a character begins an identifier of the grammar: an underscore, a letter or a letter
number. -/
def beginsLexical (c : Char) : Bool := c == '_' || letters.has c || letterNumbers.has c

/-- Whether a character goes on with an identifier of the grammar: a letter, a letter number, a
decimal digit, a mark, a connector or a format character. -/
def continuesLexical (c : Char) : Bool :=
  letters.has c || letterNumbers.has c || decimalDigits.has c || nonspacingMarks.has c ||
    spacingMarks.has c || connectors.has c || formats.has c

/-- Whether a name is an identifier of the grammar. -/
def isLexicalIdentifier (name : String) : Bool :=
  match name.toList with
  | [] => false
  | first :: rest => beginsLexical first && rest.all continuesLexical && !isKeyword name

/-- Whether a character is of neither kind that stands in no identifier of the grammar although it
counts as alphabetic or as a number. -/
def isPlain (c : Char) : Bool := !otherNumbers.has c && !enclosedLetters.has c

/-- Whether a name stays clear of the characters that count as alphabetic or as numbers without
belonging where they stand: fractions, raised digits and enclosed letters anywhere, and alphabetic
marks in front. -/
def staysLexical (name : String) : Bool :=
  name.toList.all isPlain && name.toList.head?.all fun first => !otherAlphabetic.has first

/-! ## Single characters -/

/-- An underscore is a connector. -/
theorem connectors_underscore : connectors.has '_' = true := by decide

/-- An ASCII character is plain, and not alphabetic unless it is a letter. -/
theorem isPlain_of_ascii {c : Char} (ascii : c.toNat ≤ 127) :
    isPlain c = true ∧ otherAlphabetic.has c = false := by
  have inside : 0 ≤ c.toNat ∧ c.toNat ≤ 127 := ⟨Nat.zero_le _, ascii⟩
  refine ⟨?_, Ranges.has_eq_false (by decide +kernel) inside⟩
  rw [isPlain, Ranges.has_eq_false (by decide +kernel) inside,
    Ranges.has_eq_false (by decide +kernel) inside]
  rfl

/-- What can stand in an identifier goes on with one of the grammar exactly if it is plain. -/
theorem continuesLexical_iff {c : Char} (continues : continuesIdentifier c = true) :
    continuesLexical c = true ↔ isPlain c = true := by
  have lexical : continuesLexical c = true ↔ letters.has c = true ∨ letterNumbers.has c = true ∨
      decimalDigits.has c = true ∨ nonspacingMarks.has c = true ∨ spacingMarks.has c = true ∨
      connectors.has c = true ∨ formats.has c = true := by
    simp [continuesLexical, or_assoc]
  have plain : isPlain c = true ↔ otherNumbers.has c = false ∧ enclosedLetters.has c = false := by
    simp [isPlain]
  rw [lexical, plain]
  refine ⟨symbols_eq_false, fun ⟨notNumber, notEnclosed⟩ => ?_⟩
  simp only [continuesIdentifier, isAlphanumeric, isAlphabetic, isNumeric, Bool.or_eq_true,
    beq_iff_eq] at continues
  rcases continues with rfl | ((letter | letter) | alphabetic) | (digit | letter) | number
  · simp [connectors_underscore]
  · simp [letter]
  · simp [letter]
  · have split := otherAlphabetic_split alphabetic
    rw [notEnclosed] at split
    rcases split with mark | mark | enclosed
    · simp [mark]
    · simp [mark]
    · exact absurd enclosed Bool.false_ne_true
  · simp [digit]
  · simp [letter]
  · exact absurd (notNumber.symm.trans number) Bool.false_ne_true

/-- What can begin an identifier begins one of the grammar exactly if it is not alphabetic only
beside the letters. -/
theorem beginsLexical_iff {c : Char} (begins : beginsIdentifier c = true) :
    beginsLexical c = true ↔ otherAlphabetic.has c = false := by
  simp only [beginsIdentifier, isAlphabetic, Bool.or_eq_true, beq_iff_eq] at begins
  simp only [beginsLexical, Bool.or_eq_true, beq_iff_eq, or_assoc]
  constructor
  · rintro (rfl | letter | letter)
    · exact (isPlain_of_ascii (by decide)).2
    · exact otherAlphabetic_eq_false (Or.inl letter)
    · exact otherAlphabetic_eq_false (Or.inr (Or.inl letter))
  · intro notOther
    rw [notOther] at begins
    rcases begins with rfl | (letter | letter) | other
    · exact Or.inl rfl
    · exact Or.inr (Or.inl letter)
    · exact Or.inr (Or.inr letter)
    · exact absurd other Bool.false_ne_true

/-- What begins an identifier of the grammar goes on with one, too. -/
theorem continuesLexical_of_begins {c : Char} (begins : beginsLexical c = true) :
    continuesLexical c = true := by
  simp only [beginsLexical, Bool.or_eq_true, beq_iff_eq] at begins
  rcases begins with (rfl | letter) | letter
  · simp [continuesLexical, connectors_underscore]
  · simp [continuesLexical, letter]
  · simp [continuesLexical, letter]

/-- What begins an identifier of the grammar is plain. -/
theorem isPlain_of_beginsLexical {c : Char} (begins : beginsLexical c = true) :
    isPlain c = true := by
  have lexical : continuesLexical c = true := continuesLexical_of_begins begins
  have goesOn : continuesIdentifier c = true := by
    simp only [beginsLexical, Bool.or_eq_true, beq_iff_eq] at begins
    rcases begins with (rfl | letter) | letter
    · simp [continuesIdentifier]
    · simp [continuesIdentifier, isAlphanumeric, isAlphabetic, letter]
    · simp [continuesIdentifier, isAlphanumeric, isAlphabetic, letter]
  exact (continuesLexical_iff goesOn).mp lexical

/-- Characters that can stand in no identifier are plain and not alphabetic. -/
theorem isPlain_of_not_continues {c : Char} (stops : continuesIdentifier c = false) :
    isPlain c = true ∧ otherAlphabetic.has c = false := by
  simp only [continuesIdentifier, isAlphanumeric, isAlphabetic, isNumeric, Bool.or_eq_false_iff]
    at stops
  obtain ⟨-, ⟨-, notOther⟩, -, notNumber⟩ := stops
  have notEnclosed : enclosedLetters.has c = false := by
    by_contra enclosed
    rw [Bool.not_eq_false] at enclosed
    exact absurd (notOther.symm.trans (otherAlphabetic_of_enclosed enclosed)) Bool.false_ne_true
  exact ⟨by simp [isPlain, notNumber, notEnclosed], notOther⟩

/-! ## Identifiers -/

/-- An identifier is one of the grammar exactly if it stays clear of the characters that do not
belong where they stand. -/
theorem isLexicalIdentifier_iff {name : String} (ident : isIdentifier name = true) :
    isLexicalIdentifier name = true ↔ staysLexical name = true := by
  cases chars : name.toList with
  | nil => simp [isIdentifier, chars] at ident
  | cons first rest =>
    obtain ⟨begins, continues, notReserved⟩ := (isIdentifier_iff chars).mp ident
    have lexical : isLexicalIdentifier name = true ↔
        beginsLexical first = true ∧ ∀ c ∈ rest, continuesLexical c = true := by
      simp [isLexicalIdentifier, chars, notReserved]
    have stays : staysLexical name = true ↔
        (isPlain first = true ∧ ∀ c ∈ rest, isPlain c = true) ∧
          otherAlphabetic.has first = false := by
      simp [staysLexical, chars]
    rw [lexical, stays, ← beginsLexical_iff begins]
    constructor
    · rintro ⟨beginsLexical, goesOn⟩
      exact ⟨⟨isPlain_of_beginsLexical beginsLexical,
        fun c mem => (continuesLexical_iff (continues c mem)).mp (goesOn c mem)⟩, beginsLexical⟩
    · rintro ⟨⟨-, plain⟩, beginsLexical⟩
      exact ⟨beginsLexical,
        fun c mem => (continuesLexical_iff (continues c mem)).mpr (plain c mem)⟩

/-- A name of ASCII characters stays clear. -/
theorem staysLexical_of_ascii {name : String} (ascii : ∀ c ∈ name.toList, c.toNat ≤ 127) :
    staysLexical name = true := by
  rw [staysLexical, Bool.and_eq_true, List.all_eq_true, Option.all_eq_true]
  refine ⟨fun c mem => (isPlain_of_ascii (ascii c mem)).1, fun c mem => ?_⟩
  rw [(isPlain_of_ascii (ascii c (List.mem_of_mem_head? mem))).2]
  rfl

/-! ## Names of members -/

/-- The reserved words stay clear. -/
theorem staysLexical_keyword {word : String} (reserved : isKeyword word = true) :
    staysLexical word = true :=
  staysLexical_of_ascii fun c mem => Nat.le_trans (bounds_of_isKeyword reserved mem).2 (by decide)

/-- A reserved word behind an `@` stays clear. -/
theorem staysLexical_of_escaped {name : String} {word : List Char}
    (chars : name.toList = '@' :: word) (reserved : isKeyword (String.ofList word) = true) :
    staysLexical name = true := by
  have sign : isPlain '@' = true ∧ otherAlphabetic.has '@' = false :=
    isPlain_of_ascii (by decide)
  have stays := staysLexical_keyword reserved
  rw [staysLexical, String.toList_ofList, Bool.and_eq_true] at stays
  simpa [staysLexical, chars, sign] using List.all_eq_true.mp stays.1

/-- A name that a member can have is one of the grammar, or a reserved word behind an `@`, exactly
if it stays clear. -/
theorem isLexical_or_escaped_iff {name : String} (member : IsMemberName name) :
    isLexicalIdentifier name = true ∨ isEscapedKeyword name = true ↔ staysLexical name = true := by
  have ofEscaped : isEscapedKeyword name = true → staysLexical name = true := by
    intro escaped
    obtain ⟨reserved, chars⟩ := isEscapedKeyword_iff.mp escaped
    exact staysLexical_of_escaped chars (by rwa [String.ofList_toList])
  rcases member with ident | escaped
  · rw [isLexicalIdentifier_iff ident]
    exact ⟨fun either => either.elim id ofEscaped, Or.inl⟩
  · exact ⟨fun _ => ofEscaped escaped, fun _ => Or.inr escaped⟩

/-- A name stays clear exactly if what becomes of its characters does. -/
theorem staysLexical_replaced (text : List Char) :
    staysLexical (String.ofList (text.map fun c => if continuesIdentifier c then c else '_')) =
      staysLexical (String.ofList text) := by
  have underscore : isPlain '_' = true ∧ otherAlphabetic.has '_' = false :=
    isPlain_of_ascii (by decide)
  have kept : ∀ c, isPlain (if continuesIdentifier c then c else '_') = isPlain c ∧
      otherAlphabetic.has (if continuesIdentifier c then c else '_') = otherAlphabetic.has c := by
    intro c
    cases continues : continuesIdentifier c with
    | true => exact ⟨rfl, rfl⟩
    | false =>
      obtain ⟨plain, notOther⟩ := isPlain_of_not_continues continues
      exact ⟨underscore.1.trans plain.symm, underscore.2.trans notOther.symm⟩
  simp only [staysLexical, String.toList_ofList, List.all_map, List.head?_map, Option.all_map,
    Function.comp_def, kept]

/-- An underscore in front of a number and an `@` in front of a reserved word change nothing about
whether a name stays clear. -/
theorem staysLexical_marked (first : Char) (rest : List Char) :
    let ident := if isNumeric first then '_' :: first :: rest else first :: rest
    staysLexical (String.ofList (if isKeyword (String.ofList ident) then '@' :: ident else ident)) =
      staysLexical (String.ofList (first :: rest)) := by
  intro ident
  have underscore : isPlain '_' = true ∧ otherAlphabetic.has '_' = false :=
    isPlain_of_ascii (by decide)
  have numbered : staysLexical (String.ofList ident) =
      staysLexical (String.ofList (first :: rest)) := by
    by_cases numeric : isNumeric first = true
    · -- A number is not alphabetic, so it did not belong in front for another reason.
      have notOther : otherAlphabetic.has first = false := by
        refine otherAlphabetic_eq_false ?_
        simp only [isNumeric, Bool.or_eq_true] at numeric
        rcases numeric with (digit | letter) | number
        · exact Or.inr (Or.inr (Or.inl digit))
        · exact Or.inr (Or.inl letter)
        · exact Or.inr (Or.inr (Or.inr number))
      simp [ident, numeric, staysLexical, underscore, notOther]
    · rw [show ident = first :: rest from if_neg numeric]
  rw [← numbered]
  by_cases reserved : isKeyword (String.ofList ident) = true
  · rw [if_pos reserved, staysLexical_of_escaped String.toList_ofList reserved,
      staysLexical_keyword reserved]
  · rw [if_neg reserved]

/-- What is made of a name stays clear exactly if the name does. -/
theorem staysLexical_memberIdentifier (name : String) :
    staysLexical (memberIdentifier name) = staysLexical name := by
  unfold memberIdentifier
  split
  · rfl
  · have replaced := staysLexical_replaced name.toList
    rw [String.ofList_toList] at replaced
    rw [sanitize, sanitizeChars, ← replaced]
    cases name.toList.map fun c => if continuesIdentifier c then c else '_' with
    | nil => simp [staysLexical, isPlain_of_ascii (show ('_' : Char).toNat ≤ 127 by decide)]
    | cons first rest => exact staysLexical_marked first rest

end TypedMvc.Naming

namespace TypedMvc.Settings

open Naming

/-- The names in the settings: those of the two classes, the suffix of the controllers, and the
parts of the namespace. -/
def Generation.names (settings : Generation) : List String :=
  [settings.helpersPrefix, settings.linksClass, settings.controllerSuffix] ++
    if settings.namespaceName = "" then [] else Text.pieces '.' settings.namespaceName

/-- The names in settings without fault are identifiers. -/
theorem isIdentifier_of_mem_names {settings : Generation} (valid : settings.fault? = none)
    {name : String} (mem : name ∈ settings.names) : isIdentifier name = true := by
  obtain ⟨helpersPrefix, links, suffix, space, -⟩ := Generation.fault?_eq_none_iff.mp valid
  rw [Generation.names, List.mem_append] at mem
  rcases mem with own | inSpace
  · simp only [List.mem_cons, List.not_mem_nil, or_false] at own
    rcases own with rfl | rfl | rfl
    · exact helpersPrefix
    · exact links
    · exact suffix
  · split at inSpace
    · exact absurd inSpace List.not_mem_nil
    · next named =>
      rw [isNamespace, Bool.or_eq_true, beq_iff_eq] at space
      exact List.all_eq_true.mp (space.resolve_left named) name inSpace

end TypedMvc.Settings

namespace TypedMvc.Naming

open Settings

/-! ## What reaches the generated code -/

/-- A name that counts as an identifier is one of the lexical grammar exactly if it stays clear of
the characters that do not belong where they stand. The same holds of the names in a valid
configuration, and what becomes of any text that a member stands for can be used exactly if that
text stays clear of them. -/
theorem lexical_names_iff (name : String) :
    (isIdentifier name = true →
      (isLexicalIdentifier name = true ↔ staysLexical name = true)) ∧
    (∀ config : Config, config.fault? = none → name ∈ config.generation.names →
      (isLexicalIdentifier name = true ↔ staysLexical name = true)) ∧
    ((isLexicalIdentifier (memberIdentifier name) = true ∨
      isEscapedKeyword (memberIdentifier name) = true) ↔ staysLexical name = true) := by
  refine ⟨fun ident => isLexicalIdentifier_iff ident, fun config valid mem => ?_, ?_⟩
  · exact isLexicalIdentifier_iff (isIdentifier_of_mem_names valid mem)
  · rw [← staysLexical_memberIdentifier name]
    exact isLexical_or_escaped_iff (isMemberName_memberIdentifier name)

/-- Identifiers with letters beyond ASCII, a letter number in front and a mark further on are in the
grammar, and so are the names in a configuration that uses them. -/
theorem lexical_names_beyond_ascii :
    let settings : Generation :=
      { helpersPrefix := "Übersicht", linksClass := "Ⅳ", namespaceName := "Ελ.ก\u0e31น" }
    let config : Config := { generation := settings }
    (∀ name ∈ ["Übersicht", "Ⅳ", "ก\u0e31น"], isIdentifier name = true ∧
      isLexicalIdentifier name = true) ∧
    config.fault? = none ∧ config.generation.names.all isLexicalIdentifier = true ∧
    memberIdentifier "3 Überblick" = "_3_Überblick" ∧
      isLexicalIdentifier "_3_Überblick" = true := by
  intro settings config
  have whole : ∀ name ∈ ["Übersicht", "Ⅳ", "ก\u0e31น", "Ελ"],
      name.toList.head?.any beginsIdentifier = true ∧
        name.toList.all continuesIdentifier = true ∧ standsOut name = true ∧
          staysLexical name = true := by
    decide +kernel
  have idents : ∀ name ∈ ["Übersicht", "Ⅳ", "ก\u0e31น", "Ελ"], isIdentifier name = true := by
    intro name mem
    obtain ⟨begins, continues, out, -⟩ := whole name mem
    exact isIdentifier_of_standsOut begins continues out
  have space : Text.pieces '.' settings.namespaceName = ["Ελ", "ก\u0e31น"] := by decide
  have valid : config.fault? = none := by
    refine Generation.fault?_eq_none_iff.mpr ⟨idents _ (by decide), idents _ (by decide),
      isIdentifier_of_isAsciiName (by decide), ?_, by decide, by decide⟩
    rw [isNamespace, space, Bool.or_eq_true, List.all_eq_true]
    rw [List.forall_mem_cons, List.forall_mem_singleton]
    exact Or.inr ⟨idents _ (by decide), idents _ (by decide)⟩
  have stays : ∀ name ∈ config.generation.names, staysLexical name = true := by
    have names : config.generation.names =
        ["Übersicht", "Ⅳ", "Controller"] ++ ["Ελ", "ก\u0e31น"] := by
      rw [Generation.names, if_neg (by decide), space]
    simp only [names, List.forall_mem_append, List.forall_mem_cons]
    have suffix : staysLexical "Controller" = true := by decide +kernel
    exact ⟨⟨(whole _ (by decide)).2.2.2, (whole _ (by decide)).2.2.2, suffix, nofun⟩,
      (whole _ (by decide)).2.2.2, (whole _ (by decide)).2.2.2, nofun⟩
  have made : memberIdentifier "3 Überblick" = "_3_Überblick" := by decide +kernel
  refine ⟨fun name mem => ?_, valid, ?_, made, ?_⟩
  · have listed := List.mem_append_left ["Ελ"] mem
    have ident := idents name listed
    exact ⟨ident, ((lexical_names_iff name).1 ident).mpr (whole name listed).2.2.2⟩
  · exact List.all_eq_true.mpr fun name mem =>
      ((lexical_names_iff name).2.1 config valid mem).mpr (stays name mem)
  · have either := (lexical_names_iff "3 Überblick").2.2.mpr (by decide +kernel)
    rw [made] at either
    exact either.resolve_right (by decide)

/-- A raised digit, an enclosed letter and a mark in front are accepted in identifiers and in valid
configurations and stay in the names of members, and none of these names is an identifier of the
grammar. -/
theorem accepted_beyond_grammar :
    ∀ name ∈ ["x²", "Ⓐ", "\u0345x"],
      (isIdentifier name = true ∧ isLexicalIdentifier name = false) ∧
        Config.fault? { generation := { helpersPrefix := name } } = none ∧
          memberIdentifier name = name ∧ isEscapedKeyword name = false := by
  have odd : ∀ name ∈ ["x²", "Ⓐ", "\u0345x"], name.toList.head?.any beginsIdentifier = true ∧
      name.toList.all continuesIdentifier = true ∧ standsOut name = true ∧
        staysLexical name = false ∧ name ≠ "Links" := by
    decide +kernel
  have links : isIdentifier "Links" = true := isIdentifier_of_isAsciiName (by decide)
  have suffix : isIdentifier "Controller" = true := isIdentifier_of_isAsciiName (by decide)
  have output : Unicode.trim "R4Mvc.generated.cs" ≠ "" := by decide +kernel
  intro name mem
  obtain ⟨begins, continues, out, strays, notLinks⟩ := odd name mem
  have ident := isIdentifier_of_standsOut begins continues out
  refine ⟨⟨ident, ?_⟩, ?_, ?_, isEscapedKeyword_of_isIdentifier ident⟩
  · rw [Bool.eq_false_iff, ne_eq, isLexicalIdentifier_iff ident, strays]
    exact Bool.false_ne_true
  · exact Generation.fault?_eq_none_iff.mpr ⟨ident, links, suffix, rfl, notLinks, output⟩
  · rw [memberIdentifier, ident, Bool.true_or, if_pos rfl]

/-- A name with a raised digit is accepted in a valid configuration, stays in the name of a member,
and is no identifier of the grammar. -/
theorem identifiers_beyond_grammar :
    (isIdentifier "x²" = true ∧ isLexicalIdentifier "x²" = false) ∧
      Config.fault? { generation := { helpersPrefix := "x²" } } = none ∧
        memberIdentifier "x²" = "x²" ∧ isEscapedKeyword "x²" = false :=
  accepted_beyond_grammar "x²" (by decide)

end TypedMvc.Naming
