import Mathlib.Data.Set.Function
import TypedMvc.Proofs.ActionFields

/-!
# Names that members keep

A member stands for something with a name, and it keeps that name where it can
(`memberIdentifier_eq_self_iff`): if it is an identifier, or a reserved word behind an `@`. As
nothing else is ever given to a member (`isMemberName_memberIdentifier`), a name that was made for a
member is not changed again: `memberIdentifier_retracts`. Sanitizing alone would change some of
these names, for it puts an underscore in front of an identifier that begins with a letter that is a
number as well.
-/

namespace TypedMvc.Naming

open Unicode

/-- A reserved word behind an `@` is one that an `@` was put in front of. -/
theorem isEscapedKeyword_iff_exists {name : String} :
    isEscapedKeyword name = true ↔ ∃ word, isKeyword word = true ∧ name = "@" ++ word := by
  rw [isEscapedKeyword_iff]
  constructor
  · rintro ⟨reserved, chars⟩
    refine ⟨withoutAt name, reserved, String.toList_injective ?_⟩
    rw [chars, String.toList_append]
    rfl
  · rintro ⟨word, reserved, rfl⟩
    have chars : ("@" ++ word).toList = '@' :: word.toList := String.toList_append
    have bare : withoutAt ("@" ++ word) = word := by
      rw [withoutAt, chars]
      exact String.ofList_toList
    rw [bare]
    exact ⟨reserved, chars⟩

/-- A member keeps the name of what it stands for exactly if a member can have that name. -/
theorem memberIdentifier_eq_self_iff {name : String} :
    memberIdentifier name = name ↔ IsMemberName name := by
  constructor
  · intro kept
    rw [← kept]
    exact isMemberName_memberIdentifier name
  · intro usable
    rw [memberIdentifier, if_pos ((Bool.or_eq_true _ _).mpr usable)]

/-- A letter that is a number as well begins an identifier that sanitizing alone would change. -/
example : sanitize "Ⅷ" = "_Ⅷ" ∧ memberIdentifier "Ⅷ" = "Ⅷ" := by decide +kernel

/-- Identifiers and reserved words get distinct names. -/
theorem injOn_memberIdentifier :
    Set.InjOn memberIdentifier {name | isIdentifier name = true ∨ isKeyword name = true} :=
  fun _ usableA _ usableB same => memberIdentifier_inj usableA usableB same

/-- Members get usable names only, and a usable name is kept: it stays as it is exactly if it is an
identifier or a reserved word behind an `@`, and so a name that was made for a member is not changed
again. Things that are called by identifiers or reserved words get members of distinct names. -/
theorem memberIdentifier_retracts :
    (∀ name, memberIdentifier name = name ↔
      isIdentifier name = true ∨ ∃ word, isKeyword word = true ∧ name = "@" ++ word) ∧
    (∀ name, memberIdentifier (memberIdentifier name) = memberIdentifier name) ∧
    Set.InjOn memberIdentifier {name | isIdentifier name = true ∨ isKeyword name = true} := by
  refine ⟨fun name => ?_, fun name => ?_, injOn_memberIdentifier⟩
  · rw [memberIdentifier_eq_self_iff, IsMemberName, isEscapedKeyword_iff_exists]
  · exact memberIdentifier_eq_self_iff.mpr (isMemberName_memberIdentifier name)

/-- A reserved word behind an `@` is kept, and what is called by the word alone gets another member
than what is called by an identifier. -/
theorem memberIdentifier_retracts_reserved :
    memberIdentifier "@class" = "@class" ∧ memberIdentifier "class" ≠ memberIdentifier "Class" := by
  obtain ⟨kept, -, distinct⟩ := memberIdentifier_retracts
  refine ⟨(kept "@class").mpr (Or.inr ⟨"class", by decide, rfl⟩), fun same => ?_⟩
  have reserved : isKeyword "class" = true := by decide
  have isIdent : isIdentifier "Class" = true := by decide +kernel
  exact absurd (distinct (Or.inr reserved) (Or.inl isIdent) same) (by decide)

end TypedMvc.Naming
