import TypedMvc.Proofs.LiteralEscapes

/-!
# Scanning string literals

What a regular string literal spells is a rule of its own: a character other than the quotation mark
and the backslash stands for itself, and a backslash begins one of seven escapes (`Spells`).
`scanLiteral` follows this rule from the first quotation mark to the first one that is not escaped,
and accepts nothing else (`scanInside_eq_some_iff`). Every text is spelled by what is written for it
(`spells_flatMap_escapeChar`), so a scan of its literal gives the text and ends at the last
character, whatever stands behind: `scanLiteral_literal`.
-/

namespace TypedMvc.Declaration

/-! ## What a literal spells -/

/-- The characters that a mark behind a backslash stands for. -/
def marks : List (Char × Char) :=
  [('"', '"'), ('\\', '\\'), ('n', '\n'), ('r', '\r'), ('t', '\t'), ('0', '\x00')]

/-- The value of a hexadecimal digit in either case. -/
def digitValue? (c : Char) : Option Nat :=
  if '0' ≤ c ∧ c ≤ '9' then some (c.toNat - '0'.toNat)
  else if 'a' ≤ c ∧ c ≤ 'f' then some (c.toNat - 'a'.toNat + 10)
  else if 'A' ≤ c ∧ c ≤ 'F' then some (c.toNat - 'A'.toNat + 10)
  else none

/-- The character with a number, if there is one. -/
def charOf? (n : Nat) : Option Char := if n.isValidChar then some (Char.ofNat n) else none

/-- The character whose code has four hexadecimal digits, the highest one first. -/
def codedChar? (a b c d : Char) : Option Char :=
  (digitValue? a).bind fun a => (digitValue? b).bind fun b => (digitValue? c).bind fun c =>
    (digitValue? d).bind fun d => charOf? (((a * 16 + b) * 16 + c) * 16 + d)

/-- What stands between the quotation marks of a regular string literal, and the text that it
spells. -/
inductive Spells : List Char → List Char → Prop where
  /-- Nothing spells the empty text. -/
  | nil : Spells [] []
  /-- A character stands for itself. -/
  | plain {c : Char} {inside text : List Char} (notQuote : c ≠ '"') (notBackslash : c ≠ '\\')
      (rest : Spells inside text) : Spells (c :: inside) (c :: text)
  /-- A mark behind a backslash stands for its character. -/
  | marked {mark c : Char} {inside text : List Char} (isMark : marks.lookup mark = some c)
      (rest : Spells inside text) : Spells ('\\' :: mark :: inside) (c :: text)
  /-- The letter `u` and four digits behind a backslash stand for the character of that code. -/
  | coded {w x y z c : Char} {inside text : List Char} (isCode : codedChar? w x y z = some c)
      (rest : Spells inside text) : Spells ('\\' :: 'u' :: w :: x :: y :: z :: inside) (c :: text)

/-! ## The scan -/

/-- What comes of a scan: the text, and what stands behind the quotation mark at its end. -/
structure Scanned where
  /-- The text. -/
  text : List Char
  /-- What stands behind the quotation mark. -/
  behind : List Char
  deriving Repr, DecidableEq

/-- One more character in front of a text. -/
def Scanned.cons (c : Char) (scanned : Scanned) : Scanned :=
  { scanned with text := c :: scanned.text }

/-- Scans from behind the first quotation mark of a literal to the first one that is not escaped. -/
def scanInside : List Char → Option Scanned
  | [] => none
  | '"' :: behind => some ⟨[], behind⟩
  | '\\' :: 'u' :: w :: x :: y :: z :: rest =>
    (codedChar? w x y z).bind fun c => (scanInside rest).map (.cons c)
  | '\\' :: mark :: rest => (marks.lookup mark).bind fun c => (scanInside rest).map (.cons c)
  | ['\\'] => none
  | c :: rest => (scanInside rest).map (.cons c)

/-- Scans a literal with its quotation marks. -/
def scanLiteral : List Char → Option Scanned
  | '"' :: rest => scanInside rest
  | _ => none

variable {inside text behind : List Char} {c : Char}

/-- A character that stands for itself is scanned as itself. -/
theorem scanInside_plain (notQuote : c ≠ '"') (notBackslash : c ≠ '\\') (rest : List Char) :
    scanInside (c :: rest) = (scanInside rest).map (.cons c) := by
  rw [scanInside]
  all_goals simp [notQuote, notBackslash]

/-- A mark behind a backslash is scanned as its character. -/
theorem scanInside_marked {mark : Char} (isMark : marks.lookup mark = some c) (rest : List Char) :
    scanInside ('\\' :: mark :: rest) = (scanInside rest).map (.cons c) := by
  -- The letter that begins a code is no mark.
  have notCode : mark ≠ 'u' := by
    rintro rfl
    cases isMark
  rw [scanInside]
  · rw [isMark, Option.bind_some]
  · rintro w x y z rest' rfl
    exact absurd rfl notCode

/-- What is scanned behind some characters, in front of which another one stands, ends where it
ended without that one. -/
theorem map_cons_eq_some_iff {scanned : Option Scanned} :
    scanned.map (Scanned.cons c) = some ⟨text, behind⟩ ↔
      ∃ rest, text = c :: rest ∧ scanned = some ⟨rest, behind⟩ := by
  constructor
  · intro found
    obtain ⟨⟨rest, behind'⟩, isScanned, whole⟩ := Option.map_eq_some_iff.mp found
    cases whole
    exact ⟨rest, rfl, isScanned⟩
  · rintro ⟨rest, rfl, rfl⟩
    rfl

/-- What spells a text is scanned up to the quotation mark behind it. -/
theorem Spells.scanInside_eq (spells : Spells inside text) (behind : List Char) :
    scanInside (inside ++ '"' :: behind) = some ⟨text, behind⟩ := by
  induction spells with
  | nil => rfl
  | plain notQuote notBackslash rest ih =>
    rw [List.cons_append, scanInside_plain notQuote notBackslash, ih]
    rfl
  | marked isMark rest ih =>
    rw [List.cons_append, List.cons_append, scanInside_marked isMark, ih]
    rfl
  | coded isCode rest ih =>
    simp only [List.cons_append]
    rw [scanInside, isCode, Option.bind_some, ih]
    rfl

/-- A scan ends at the first quotation mark that is not part of what spells the text. -/
theorem scanInside_eq_some_iff {chars : List Char} :
    scanInside chars = some ⟨text, behind⟩ ↔
      ∃ inside, Spells inside text ∧ chars = inside ++ '"' :: behind := by
  constructor
  · intro scanned
    fun_induction scanInside chars generalizing text with
    | case1 => cases scanned
    | case2 rest =>
      cases scanned
      exact ⟨[], .nil, rfl⟩
    | case3 w x y z rest ih =>
      obtain ⟨c, isCode, found⟩ := Option.bind_eq_some_iff.mp scanned
      obtain ⟨text, rfl, further⟩ := map_cons_eq_some_iff.mp found
      obtain ⟨inside, spells, rfl⟩ := ih further
      exact ⟨_, .coded isCode spells, rfl⟩
    | case4 mark rest _ ih =>
      obtain ⟨c, isMark, found⟩ := Option.bind_eq_some_iff.mp scanned
      obtain ⟨text, rfl, further⟩ := map_cons_eq_some_iff.mp found
      obtain ⟨inside, spells, rfl⟩ := ih further
      exact ⟨_, .marked isMark spells, rfl⟩
    | case5 => cases scanned
    | case6 c rest notQuote _ others alone ih =>
      obtain ⟨text, rfl, further⟩ := map_cons_eq_some_iff.mp scanned
      -- A backslash has something or nothing behind it, and both were other cases.
      have notBackslash : c ≠ '\\' := by
        intro isBackslash
        cases rest with
        | nil => exact alone isBackslash rfl
        | cons mark rest => exact others mark rest isBackslash rfl
      obtain ⟨inside, spells, rfl⟩ := ih further
      exact ⟨_, .plain notQuote notBackslash spells, rfl⟩
  · rintro ⟨inside, spells, rfl⟩
    exact spells.scanInside_eq behind

/-! ## What is written for a text spells it -/

/-- The value of a digit that is written is the number it was written for. -/
theorem digitValue?_hexDigit : ∀ n < 16, digitValue? (hexDigit n) = some n := by decide

/-- A character is the one with its number. -/
theorem charOf?_toNat (c : Char) : charOf? c.toNat = some c := by
  have isChar : c.toNat.isValidChar := c.valid
  rw [charOf?, if_pos isChar, Char.ofNat_toNat]

/-- The code of a control character stands for it. -/
theorem codedChar?_codeEscape (control : isControl c = true) :
    codedChar? (hexDigit (c.toNat / 4096 % 16)) (hexDigit (c.toNat / 256 % 16))
      (hexDigit (c.toNat / 16 % 16)) (hexDigit (c.toNat % 16)) = some c := by
  have small : c.toNat < 65536 := toNat_lt_of_isControl control
  have digit : ∀ n, digitValue? (hexDigit (n % 16)) = some (n % 16) :=
    fun n => digitValue?_hexDigit _ (Nat.mod_lt n (by decide))
  have code : ((c.toNat / 4096 % 16 * 16 + c.toNat / 256 % 16) * 16 + c.toNat / 16 % 16) * 16 +
      c.toNat % 16 = c.toNat := by omega
  rw [codedChar?, digit, digit, digit, digit]
  simp only [Option.bind_some]
  rw [code, charOf?_toNat]

/-- What is written for a character spells it, in front of what spells the rest. -/
theorem Spells.escapeChar_append (spells : Spells inside text) (c : Char) :
    Spells (escapeChar c ++ inside) (c :: text) := by
  unfold escapeChar
  split_ifs with quote backslash feed carriage tab null control
  · subst quote
    exact .marked rfl spells
  · subst backslash
    exact .marked rfl spells
  · subst feed
    exact .marked rfl spells
  · subst carriage
    exact .marked rfl spells
  · subst tab
    exact .marked rfl spells
  · subst null
    exact .marked rfl spells
  · exact .coded (codedChar?_codeEscape control) spells
  · exact .plain quote backslash spells

/-- What is written between the quotation marks of a literal spells its text. -/
theorem spells_flatMap_escapeChar (text : List Char) : Spells (text.flatMap escapeChar) text := by
  induction text with
  | nil => exact .nil
  | cons c rest ih =>
    rw [List.flatMap_cons]
    exact ih.escapeChar_append c

/-- A literal stands between quotation marks. -/
theorem toList_literal (s : String) :
    (literal s).toList = '"' :: (s.toList.flatMap escapeChar ++ ['"']) := by
  rw [literal, String.toList_ofList, literalChars]

/-- A text has no other literal than its own. -/
theorem literal_injective : Function.Injective literal := by
  intro a b same
  have chars : literalChars a.toList ++ [] = literalChars b.toList ++ [] := by
    rw [List.append_nil, List.append_nil]
    exact String.ofList_injective same
  exact String.toList_injective (literalChars_append_inj chars).1

/-- The literal of a text begins with a quotation mark, and what is between this and its last
character spells the text. That last character is the first quotation mark that is not escaped: a
scan of the literal gives the text and ends there, whatever stands behind it. Different texts have
different literals. -/
theorem scanLiteral_literal :
    (∀ s : String,
      (∃ inside, (literal s).toList = '"' :: (inside ++ ['"']) ∧ Spells inside s.toList) ∧
        ∀ behind, scanLiteral ((literal s).toList ++ behind) = some ⟨s.toList, behind⟩) ∧
      Function.Injective literal := by
  refine ⟨fun s => ?_, literal_injective⟩
  have spells : Spells (s.toList.flatMap escapeChar) s.toList := spells_flatMap_escapeChar s.toList
  refine ⟨⟨_, toList_literal s, spells⟩, fun behind => ?_⟩
  have whole : (literal s).toList ++ behind =
      '"' :: (s.toList.flatMap escapeChar ++ '"' :: behind) := by
    rw [toList_literal, List.cons_append, List.append_assoc, List.singleton_append]
  rw [whole, scanLiteral]
  exact scanInside_eq_some_iff.mpr ⟨_, spells, rfl⟩

end TypedMvc.Declaration
