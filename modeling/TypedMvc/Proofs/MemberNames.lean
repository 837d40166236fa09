import Mathlib.Data.List.Nodup
import TypedMvc.Naming.Identifier

/-!
# Names that a member can have

An identifier can be written with an `@` in front of it without becoming another one, so two members
clash if their names agree up to that sign (`withoutAt`). A member is called by an identifier or by
a reserved word behind an `@` (`IsMemberName`), and `memberIdentifier` gives nothing else, whatever
the text it starts from (`isMemberName_memberIdentifier`). Such names have the sign only where they
need it: names that agree up to the sign are equal (`eq_of_withoutAt_eq`).
-/

namespace TypedMvc.Naming

open Unicode

/-- The name without the `@` that may stand in front of it. -/
def withoutAt (name : String) : String :=
  match name.toList with
  | '@' :: rest => String.ofList rest
  | _ => name

/-- A name that a member can have: an identifier, or a reserved word behind an `@`. -/
def IsMemberName (name : String) : Prop :=
  isIdentifier name = true ∨ isEscapedKeyword name = true

/-! ## Characters -/

/-- Whether a character is an underscore or an ASCII letter. -/
def isAsciiPart (c : Char) : Bool :=
  c == '_' || (Nat.ble 65 c.toNat && Nat.ble c.toNat 90) ||
    (Nat.ble 97 c.toNat && Nat.ble c.toNat 122)

/-- Underscores and ASCII letters begin an identifier and go on with it. -/
theorem beginsIdentifier_of_isAsciiPart {c : Char} (part : isAsciiPart c = true) :
    beginsIdentifier c = true ∧ continuesIdentifier c = true := by
  simp only [isAsciiPart, Bool.or_eq_true, Bool.and_eq_true, Nat.ble_eq, beq_iff_eq] at part
  have kind : c = '_' ∨ isAlphabetic c = true := by
    rcases part with (rfl | inside) | inside
    · exact Or.inl rfl
    · exact Or.inr (isAlphabetic_of_letter (Ranges.has_iff.mpr ⟨(65, 90), by decide, inside⟩))
    · exact Or.inr (isAlphabetic_of_letter (Ranges.has_iff.mpr ⟨(97, 122), by decide, inside⟩))
  rw [beginsIdentifier, continuesIdentifier, Bool.or_eq_true, Bool.or_eq_true, beq_iff_eq]
  exact ⟨kind, kind.imp_right isAlphanumeric_of_isAlphabetic⟩

/-! ## Reserved words -/

/-- Reserved words are made of small letters. -/
theorem bounds_of_isKeyword {word : String} (reserved : isKeyword word = true) {c : Char}
    (mem : c ∈ word.toList) : 97 ≤ c.toNat ∧ c.toNat ≤ 122 := by
  have small : keywords.all (fun word => word.toList.all fun c =>
      Nat.ble 97 c.toNat && Nat.ble c.toNat 122) = true := by cbv
  have inside := List.all_eq_true.mp (List.all_eq_true.mp small word (isKeyword_iff.mp reserved))
    c mem
  rwa [Bool.and_eq_true, Nat.ble_eq, Nat.ble_eq] at inside

/-- The characters of reserved words can stand in identifiers. -/
theorem continuesIdentifier_of_isKeyword {word : String} (reserved : isKeyword word = true)
    {c : Char} (mem : c ∈ word.toList) : continuesIdentifier c = true := by
  have inside := bounds_of_isKeyword reserved mem
  refine (beginsIdentifier_of_isAsciiPart ?_).2
  rw [isAsciiPart, Nat.ble_eq_true_of_le inside.1, Nat.ble_eq_true_of_le inside.2, Bool.and_true,
    Bool.or_true]

/-! ## What a made name looks like -/

/-- An identifier begins like one and goes on like one, and is no reserved word. -/
theorem isIdentifier_iff {name : String} {first : Char} {rest : List Char}
    (chars : name.toList = first :: rest) :
    isIdentifier name = true ↔
      beginsIdentifier first = true ∧ (∀ c ∈ rest, continuesIdentifier c = true) ∧
        isKeyword name = false := by
  unfold isIdentifier
  rw [chars]
  simp [and_assoc]

/-- A character that can stand in an identifier can begin one, unless it is a number. -/
theorem beginsIdentifier_of_continues {c : Char} (continues : continuesIdentifier c = true)
    (notNumeric : isNumeric c = false) : beginsIdentifier c = true := by
  unfold continuesIdentifier isAlphanumeric at continues
  rw [notNumeric, Bool.or_false] at continues
  exact continues

/-- What is put in place of the characters of a name can stand in an identifier. -/
theorem continuesIdentifier_replaced (c : Char) :
    continuesIdentifier (if continuesIdentifier c then c else '_') = true := by
  split
  · next continues => exact continues
  · rfl

/-- Characters that go on like an identifier make one, with an underscore in front of a number and
an `@` in front of a reserved word. -/
theorem isMemberName_of_continues {first : Char} {rest : List Char}
    (continues : ∀ c ∈ first :: rest, continuesIdentifier c = true) :
    let ident := if isNumeric first then '_' :: first :: rest else first :: rest
    IsMemberName
      (String.ofList (if isKeyword (String.ofList ident) then '@' :: ident else ident)) := by
  intro ident
  by_cases reserved : isKeyword (String.ofList ident) = true
  · right
    rw [if_pos reserved, isEscapedKeyword, String.toList_ofList]
    exact reserved
  · left
    rw [if_neg reserved]
    have notReserved : isKeyword (String.ofList ident) = false := by simpa using reserved
    by_cases numeric : isNumeric first = true
    · -- The underscore begins the identifier, and the number goes on with it.
      have isIdent : ident = '_' :: first :: rest := if_pos numeric
      rw [isIdent] at notReserved ⊢
      exact (isIdentifier_iff String.toList_ofList).mpr ⟨rfl, continues, notReserved⟩
    · have isIdent : ident = first :: rest := if_neg numeric
      have begins := beginsIdentifier_of_continues (continues first List.mem_cons_self)
        (by simpa using numeric)
      rw [isIdent] at notReserved ⊢
      exact (isIdentifier_iff String.toList_ofList).mpr
        ⟨begins, fun c mem => continues c (List.mem_cons_of_mem _ mem), notReserved⟩

/-- A sanitized text is a name that a member can have. -/
theorem isMemberName_sanitize (name : String) : IsMemberName (sanitize name) := by
  unfold sanitize sanitizeChars
  have continues : ∀ c ∈ name.toList.map fun c => if continuesIdentifier c then c else '_',
      continuesIdentifier c = true := by
    intro c mem
    obtain ⟨d, -, rfl⟩ := List.mem_map.mp mem
    exact continuesIdentifier_replaced d
  generalize (name.toList.map fun c => if continuesIdentifier c then c else '_') = replaced
    at continues ⊢
  cases replaced with
  | nil => exact Or.inl (by decide +kernel)
  | cons first rest => exact isMemberName_of_continues continues

/-- Whatever a member stands for, it gets a name that a member can have. -/
theorem isMemberName_memberIdentifier (name : String) : IsMemberName (memberIdentifier name) := by
  unfold memberIdentifier
  split
  · next usable => exact (Bool.or_eq_true _ _).mp usable
  · exact isMemberName_sanitize name

/-! ## Names that are no reserved words -/

/-- Whether a name has a character that is in no reserved word. -/
def standsOut (name : String) : Bool :=
  name.toList.any fun c => Nat.blt c.toNat 97 || Nat.blt 122 c.toNat

/-- Whether a name is made of underscores and ASCII letters, and not of small letters only. Unlike
that it is an identifier, this is decided without the tables of characters. -/
def isAsciiName (name : String) : Bool :=
  name.toList.all isAsciiPart && standsOut name

/-- A name that stands out is no reserved word. -/
theorem isKeyword_of_standsOut {name : String} (out : standsOut name = true) :
    isKeyword name = false := by
  obtain ⟨c, mem, notSmall⟩ := List.any_eq_true.mp out
  by_contra reserved
  rw [Bool.not_eq_false] at reserved
  have small := bounds_of_isKeyword reserved mem
  rw [Bool.or_eq_true, Nat.blt_eq, Nat.blt_eq] at notSmall
  omega

/-- A name that begins and goes on like an identifier is one if it stands out. -/
theorem isIdentifier_of_standsOut {name : String}
    (begins : name.toList.head?.any beginsIdentifier = true)
    (continues : name.toList.all continuesIdentifier = true) (out : standsOut name = true) :
    isIdentifier name = true := by
  cases chars : name.toList with
  | nil =>
    rw [chars] at begins
    exact absurd begins Bool.false_ne_true
  | cons first rest =>
    rw [chars] at begins continues
    exact (isIdentifier_iff chars).mpr ⟨begins, fun c mem =>
      List.all_eq_true.mp continues c (List.mem_cons_of_mem first mem), isKeyword_of_standsOut out⟩

/-- A name in ASCII that is not made of small letters only is an identifier. -/
theorem isIdentifier_of_isAsciiName {name : String} (ascii : isAsciiName name = true) :
    isIdentifier name = true := by
  rw [isAsciiName, Bool.and_eq_true, List.all_eq_true] at ascii
  obtain ⟨parts, out⟩ := ascii
  refine isIdentifier_of_standsOut ?_ (List.all_eq_true.mpr fun c mem =>
    (beginsIdentifier_of_isAsciiPart (parts c mem)).2) out
  cases chars : name.toList with
  | nil => simp [standsOut, chars] at out
  | cons first rest =>
    have mem : first ∈ name.toList := chars ▸ List.mem_cons_self
    exact (beginsIdentifier_of_isAsciiPart (parts first mem)).1

/-! ## Names that agree up to the sign -/

/-- An `@` does not begin an identifier. -/
theorem beginsIdentifier_at : beginsIdentifier '@' = false := by decide +kernel

/-- An identifier has no `@` in front of it. -/
theorem withoutAt_of_isIdentifier {name : String} (ident : isIdentifier name = true) :
    withoutAt name = name := by
  unfold withoutAt
  split
  · next rest chars =>
    have begins := ((isIdentifier_iff chars).mp ident).1
    exact absurd (beginsIdentifier_at.symm.trans begins) Bool.false_ne_true
  · rfl

/-- A reserved word behind an `@` is that word, and the sign. -/
theorem isEscapedKeyword_iff {name : String} :
    isEscapedKeyword name = true ↔
      isKeyword (withoutAt name) = true ∧ name.toList = '@' :: (withoutAt name).toList := by
  unfold isEscapedKeyword withoutAt
  constructor
  · intro escaped
    split at escaped
    · next rest chars => simpa [chars] using escaped
    · exact absurd escaped Bool.false_ne_true
  · rintro ⟨reserved, chars⟩
    split at reserved
    · next rest chars' => simpa [chars'] using reserved
    · next notAt => exact absurd chars (notAt _)

/-- An identifier is no reserved word behind an `@`. -/
theorem isEscapedKeyword_of_isIdentifier {name : String} (ident : isIdentifier name = true) :
    isEscapedKeyword name = false := by
  rw [Bool.eq_false_iff, ne_eq, isEscapedKeyword_iff, withoutAt_of_isIdentifier ident]
  rintro ⟨-, chars⟩
  exact absurd (congrArg List.length chars) (by simp)

/-- Names that a member can have are equal if they agree up to the sign. -/
theorem eq_of_withoutAt_eq {a b : String} (memberA : IsMemberName a) (memberB : IsMemberName b)
    (same : withoutAt a = withoutAt b) : a = b := by
  -- An identifier is no reserved word, and that is all an escaped name is without the sign.
  have apart : ∀ {ident escaped : String}, isIdentifier ident = true →
      isEscapedKeyword escaped = true → withoutAt ident ≠ withoutAt escaped := by
    intro ident escaped isIdent isEscaped same
    have reserved := (isEscapedKeyword_iff.mp isEscaped).1
    rw [← same, withoutAt_of_isIdentifier isIdent] at reserved
    cases chars : ident.toList with
    | nil => simp [isIdentifier, chars] at isIdent
    | cons first rest =>
      have notReserved := ((isIdentifier_iff chars).mp isIdent).2.2
      exact absurd (notReserved.symm.trans reserved) Bool.false_ne_true
  rcases memberA with identA | escapedA <;> rcases memberB with identB | escapedB
  · rwa [withoutAt_of_isIdentifier identA, withoutAt_of_isIdentifier identB] at same
  · exact absurd same (apart identA escapedB)
  · exact absurd same.symm (apart identB escapedA)
  · have charsA := (isEscapedKeyword_iff.mp escapedA).2
    have charsB := (isEscapedKeyword_iff.mp escapedB).2
    rw [same, ← charsB] at charsA
    exact String.toList_injective charsA

/-- Distinct names that members can have do not clash. -/
theorem nodup_withoutAt {names : List String} (member : ∀ name ∈ names, IsMemberName name)
    (distinct : names.Nodup) : (names.map withoutAt).Nodup :=
  distinct.map_on fun a ha b hb same => eq_of_withoutAt_eq (member a ha) (member b hb) same

end TypedMvc.Naming
