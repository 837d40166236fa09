import Mathlib.Tactic.SplitIfs
import TypedMvc.Declaration.Literal

/-!
# Reading string literals

`readChar` reads one character of a literal, escaped or not, and is a left inverse of `escapeChar`
whatever follows (`readChar_escapeChar`). So the text of a literal can be read from it, and where it
ends (`literalChars_append_inj`). Whatever the text, no control character is left in its literal
(`isControl_of_mem_literalChars`), so there is no line feed in it.
-/

namespace TypedMvc.Declaration

/-! ## A reader for one character -/

/-- The value of a hexadecimal digit. -/
def hexValue (c : Char) : Nat := if c.toNat < 58 then c.toNat - 48 else c.toNat - 87

/-- The number that hexadecimal digits make, the highest one first. -/
def hexNumber (digits : List Char) : Nat := digits.foldl (fun n c => n * 16 + hexValue c) 0

/-- The character that a mark behind a backslash stands for. A quotation mark and a backslash stand
for themselves. -/
def markedChar (mark : Char) : Char :=
  if mark = 'n' then '\n'
  else if mark = 'r' then '\r'
  else if mark = 't' then '\t'
  else if mark = '0' then '\x00'
  else mark

/-- The character behind a backslash, and what follows it. -/
def readEscape : List Char → Option (Char × List Char)
  | [] => none
  | mark :: rest =>
    if mark = 'u' then some (Char.ofNat (hexNumber (rest.take 4)), rest.drop 4)
    else some (markedChar mark, rest)

/-- The first character of what is inside a literal, and what follows it. -/
def readChar : List Char → Option (Char × List Char)
  | [] => none
  | c :: rest => if c = '\\' then readEscape rest else some (c, rest)

/-! ## Escapes are read back -/

/-- The value of a digit is the number it was made from. -/
theorem hexValue_hexDigit : ∀ n < 16, hexValue (hexDigit n) = n := by decide

/-- A hexadecimal digit is no control character. -/
theorem isControl_hexDigit : ∀ n < 16, isControl (hexDigit n) = false := by decide

/-- Four digits are enough for the code of a control character. -/
theorem toNat_lt_of_isControl {c : Char} (control : isControl c = true) : c.toNat < 65536 := by
  unfold isControl at control
  simp only [Bool.or_eq_true, Bool.and_eq_true, decide_eq_true_eq] at control
  omega

/-- A control character is read from its code. -/
theorem readChar_codeEscape {c : Char} (control : isControl c = true) (rest : List Char) :
    readChar (codeEscape c ++ rest) = some (c, rest) := by
  have small := toNat_lt_of_isControl control
  have digit : ∀ n, hexValue (hexDigit (n % 16)) = n % 16 :=
    fun n => hexValue_hexDigit _ (Nat.mod_lt _ (by decide))
  have code : hexNumber ((codeEscape c ++ rest).drop 2 |>.take 4) = c.toNat := by
    show hexNumber [hexDigit (c.toNat / 4096 % 16), hexDigit (c.toNat / 256 % 16),
      hexDigit (c.toNat / 16 % 16), hexDigit (c.toNat % 16)] = c.toNat
    simp only [hexNumber, List.foldl_cons, List.foldl_nil, digit]
    omega
  show some (Char.ofNat (hexNumber ((codeEscape c ++ rest).drop 2 |>.take 4)), rest) = _
  rw [code, Char.ofNat_toNat]

/-- Reading an escaped character gives the character and what follows it. -/
theorem readChar_escapeChar (c : Char) (rest : List Char) :
    readChar (escapeChar c ++ rest) = some (c, rest) := by
  unfold escapeChar
  split_ifs with quote backslash feed carriage tab null control
  · subst quote; rfl
  · subst backslash; rfl
  · subst feed; rfl
  · subst carriage; rfl
  · subst tab; rfl
  · subst null; rfl
  · exact readChar_codeEscape control rest
  · -- What stands for itself is no backslash.
    rw [List.singleton_append, readChar, if_neg backslash]

/-- An escaped character can be read off the beginning of a text. -/
theorem escapeChar_append_inj {c d : Char} {x y : List Char}
    (same : escapeChar c ++ x = escapeChar d ++ y) : c = d ∧ x = y := by
  have read : some (c, x) = some (d, y) := calc
    some (c, x) = readChar (escapeChar c ++ x) := (readChar_escapeChar c x).symm
    _ = readChar (escapeChar d ++ y) := by rw [same]
    _ = some (d, y) := readChar_escapeChar d y
  exact Prod.mk.inj (Option.some.inj read)

/-- An escaped character is not taken for the quotation mark at the end. -/
theorem quote_cons_ne_escapeChar (c : Char) (x y : List Char) : '"' :: x ≠ escapeChar c ++ y := by
  intro same
  have read : some ('"', x) = some (c, y) := by
    rw [← readChar_escapeChar c y, ← same]
    rfl
  -- So the character would be the quotation mark, but that one is escaped.
  obtain ⟨rfl, -⟩ := Prod.mk.inj (Option.some.inj read)
  exact absurd (List.cons.inj same).1 (by decide)

/-! ## Literals -/

/-- The text of a literal can be read off the beginning of a text, with what follows the literal. -/
theorem literalChars_append_inj {a b x y : List Char}
    (same : literalChars a ++ x = literalChars b ++ y) : a = b ∧ x = y := by
  simp only [literalChars, List.cons_append, List.append_assoc, List.nil_append,
    List.cons.injEq, true_and] at same
  induction a generalizing b with
  | nil =>
    cases b with
    | nil => exact ⟨rfl, (List.cons.inj same).2⟩
    | cons d b =>
      rw [List.flatMap_cons, List.append_assoc] at same
      exact absurd same (quote_cons_ne_escapeChar _ _ _)
  | cons c a ih =>
    cases b with
    | nil =>
      rw [List.flatMap_cons, List.append_assoc] at same
      exact absurd same.symm (quote_cons_ne_escapeChar _ _ _)
    | cons d b =>
      rw [List.flatMap_cons, List.flatMap_cons, List.append_assoc, List.append_assoc] at same
      obtain ⟨rfl, rests⟩ := escapeChar_append_inj same
      obtain ⟨rfl, ends⟩ := ih rests
      exact ⟨rfl, ends⟩

/-- The signs that escapes are made of, beside hexadecimal digits. -/
def escapeSigns : List Char := ['\\', '"', 'n', 'r', 't', '0', 'u']

/-- The escape of a character by its code is made of signs and hexadecimal digits. -/
theorem mem_codeEscape_cases {c e : Char} (mem : e ∈ codeEscape c) :
    e ∈ escapeSigns ∨ ∃ n < 16, e = hexDigit n := by
  have digit (n : Nat) : ∃ k < 16, hexDigit (n % 16) = hexDigit k :=
    ⟨_, Nat.mod_lt n (by decide), rfl⟩
  simp only [codeEscape, List.mem_cons, List.not_mem_nil, or_false] at mem
  rcases mem with rfl | rfl | rfl | rfl | rfl | rfl
  · exact Or.inl (by decide)
  · exact Or.inl (by decide)
  all_goals exact Or.inr (digit _)

/-- What is written for a character is the character itself, if it is no control character, or is
made of signs and hexadecimal digits. -/
theorem mem_escapeChar_cases {c e : Char} (mem : e ∈ escapeChar c) :
    (e ∈ escapeSigns ∨ ∃ n < 16, e = hexDigit n) ∨ e = c ∧ isControl c = false := by
  have marked {mark : Char} (isSign : ['\\', mark] ⊆ escapeSigns) (mem : e ∈ ['\\', mark]) :
      (e ∈ escapeSigns ∨ ∃ n < 16, e = hexDigit n) ∨ e = c ∧ isControl c = false :=
    Or.inl (Or.inl (isSign mem))
  unfold escapeChar at mem
  split_ifs at mem with quote backslash feed carriage tab null control
  · exact marked (by decide) mem
  · exact marked (by decide) mem
  · exact marked (by decide) mem
  · exact marked (by decide) mem
  · exact marked (by decide) mem
  · exact marked (by decide) mem
  · exact Or.inl (mem_codeEscape_cases mem)
  · exact Or.inr ⟨List.mem_singleton.mp mem, Bool.eq_false_iff.mpr control⟩

/-- There is no control character in what is written for a character. -/
theorem isControl_of_mem_escapeChar {c e : Char} (mem : e ∈ escapeChar c) :
    isControl e = false := by
  have signs : ∀ sign ∈ escapeSigns, isControl sign = false := by simp [escapeSigns, isControl]
  rcases mem_escapeChar_cases mem with (sign | ⟨n, small, rfl⟩) | ⟨rfl, notControl⟩
  · exact signs e sign
  · exact isControl_hexDigit n small
  · exact notControl

/-- There is no control character in a literal. -/
theorem isControl_of_mem_literalChars {text : List Char} {e : Char}
    (mem : e ∈ literalChars text) : isControl e = false := by
  rw [literalChars, List.mem_cons, List.mem_append, List.mem_flatMap, List.mem_singleton] at mem
  rcases mem with rfl | ⟨c, -, inside⟩ | rfl
  · decide
  · exact isControl_of_mem_escapeChar inside
  · decide

end TypedMvc.Declaration
