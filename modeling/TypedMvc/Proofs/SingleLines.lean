import TypedMvc.Proofs.HeldTexts
import TypedMvc.Proofs.LiteralScans

/-!
# String literals on one line

A regular string literal has to end on the line that it begins on. Of the five characters that end a
line three are control characters and are escaped. The line separator and the paragraph separator
are not: they stand in a literal exactly if they are in the text (`mem_literal_iff`). So the literal
of a text stays on one line exactly if the text has no such separator in it (`isLineLiteral_iff`),
and `lineLiterals_generate_iff` says the same of the fields of a generated unit.
`literal_broken_by_separator` is a literal that is broken.
-/

namespace TypedMvc.Declaration

/-- The characters that end a line of source text: line feed, carriage return, next line, line
separator and paragraph separator. -/
def lineEnds : List Char := ['\n', '\r', '\u0085', '\u2028', '\u2029']

/-- The characters that end a line and are no control characters. -/
def separators : List Char := ['\u2028', '\u2029']

/-- There is no separator in a text. -/
def IsUnbroken (text : String) : Prop := ∀ c ∈ text.toList, c ∉ separators

instance (text : String) : Decidable (IsUnbroken text) :=
  List.decidableBAll (fun c => c ∉ separators) text.toList

/-- A source text is a whole string literal of a text and stays on one line. -/
structure IsLineLiteral (source text : String) : Prop where
  /-- A scan of the source gives the text and ends at the last character. -/
  scans : scanLiteral source.toList = some ⟨text.toList, []⟩
  /-- Nothing in the source ends the line. -/
  onOneLine : ∀ c ∈ source.toList, c ∉ lineEnds

variable {c d : Char} {s : String}

/-! ## Separators in a literal -/

/-- There are two separators. -/
theorem forall_mem_separators {p : Char → Prop} :
    (∀ c ∈ separators, p c) ↔ p '\u2028' ∧ p '\u2029' := by
  simp [separators]

/-- What ends a line is a control character or a separator. -/
theorem isControl_or_mem_separators : ∀ c ∈ lineEnds, isControl c = true ∨ c ∈ separators := by
  simp [lineEnds, separators, isControl]

/-- A separator ends a line. -/
theorem mem_lineEnds_of_mem_separators : ∀ c ∈ separators, c ∈ lineEnds :=
  forall_mem_separators.mpr (by decide)

/-- A separator is written as itself. -/
theorem escapeChar_of_mem_separators : ∀ c ∈ separators, escapeChar c = [c] :=
  forall_mem_separators.mpr (by decide)

/-- A separator is no control character. -/
theorem isControl_of_mem_separators : ∀ c ∈ separators, isControl c = false :=
  forall_mem_separators.mpr (by decide)

/-- A hexadecimal digit is no separator. -/
theorem hexDigit_not_mem_separators : ∀ n < 16, hexDigit n ∉ separators := by decide

/-- A separator is written for itself and for no other character. -/
theorem eq_of_mem_escapeChar (isSeparator : d ∈ separators) (mem : d ∈ escapeChar c) : d = c := by
  have signs : ∀ sign ∈ escapeSigns, sign ∉ separators := by simp [escapeSigns, separators]
  rcases mem_escapeChar_cases mem with (sign | ⟨n, small, rfl⟩) | ⟨same, -⟩
  · exact absurd isSeparator (signs d sign)
  · exact absurd isSeparator (hexDigit_not_mem_separators n small)
  · exact same

/-- Of the characters that end a line the separators in a text are in its literal, and no others
are. -/
theorem mem_literal_iff (isEnd : c ∈ lineEnds) :
    c ∈ (literal s).toList ↔ c ∈ s.toList ∧ c ∈ separators := by
  rw [toList_literal, List.mem_cons, List.mem_append, List.mem_singleton, List.mem_flatMap]
  rcases isControl_or_mem_separators c isEnd with control | isSeparator
  · -- A control character is escaped, and it is no separator.
    have other : c ∉ separators := fun isSeparator => by
      rw [isControl_of_mem_separators c isSeparator] at control
      cases control
    have absent : ¬ (c = '"' ∨ (∃ d ∈ s.toList, c ∈ escapeChar d) ∨ c = '"') := by
      rintro (rfl | ⟨d, -, written⟩ | rfl)
      · cases control
      · cases control.symm.trans (isControl_of_mem_escapeChar written)
      · cases control
    exact iff_of_false absent fun both => other both.2
  · have notQuote : c ≠ '"' := by
      rintro rfl
      exact absurd isSeparator (by decide)
    constructor
    · rintro (isQuote | ⟨d, mem, written⟩ | isQuote)
      · exact absurd isQuote notQuote
      · obtain rfl := eq_of_mem_escapeChar isSeparator written
        exact ⟨mem, isSeparator⟩
      · exact absurd isQuote notQuote
    · rintro ⟨mem, -⟩
      refine Or.inr (Or.inl ⟨c, mem, ?_⟩)
      rw [escapeChar_of_mem_separators c isSeparator]
      exact List.mem_singleton_self c

/-- The literal of a text stays on one line exactly if there is no separator in the text. -/
theorem isLineLiteral_iff : IsLineLiteral (literal s) s ↔ IsUnbroken s := by
  have scans : scanLiteral (literal s).toList = some ⟨s.toList, []⟩ := by
    have whole := (scanLiteral_literal.1 s).2 []
    rwa [List.append_nil] at whole
  constructor
  · intro isLine c mem isSeparator
    have isEnd : c ∈ lineEnds := mem_lineEnds_of_mem_separators c isSeparator
    exact isLine.onOneLine c ((mem_literal_iff isEnd).mpr ⟨mem, isSeparator⟩) isEnd
  · intro unbroken
    refine ⟨scans, fun c mem isEnd => ?_⟩
    obtain ⟨inText, isSeparator⟩ := (mem_literal_iff isEnd).mp mem
    exact unbroken c inText isSeparator

end TypedMvc.Declaration

namespace TypedMvc.Synthesis

open Declaration Model

/-! ## The literals of a generated unit -/

/-- Of the characters that end a line a literal has the separators of its text in it and no others,
so it is a literal on one line exactly if there is no separator in the text. All texts that the
fields of a generated unit are set to are written as literals on one line exactly if there is no
separator in a name of an action, a name or path of a view or a path of a static file that gets a
field. -/
theorem lineLiterals_generate_iff {controllers : List Controller} {views : List View}
    {files : List StaticFile} {settings : Settings.Generation} {unit : CompilationUnit}
    (generated : generate controllers views files settings = .ok unit) :
    (∀ s : String, ∀ c ∈ lineEnds,
      c ∈ (literal s).toList ↔ c ∈ s.toList ∧ c ∈ separators) ∧
    (∀ s : String, IsLineLiteral (literal s) s ↔ IsUnbroken s) ∧
    ((∀ text ∈ unit.texts, IsLineLiteral (Expr.text text).render text) ↔
      ∀ text, HoldsText controllers views files settings text → IsUnbroken text) := by
  refine ⟨fun s c isEnd => mem_literal_iff isEnd, fun s => isLineLiteral_iff, ?_⟩
  constructor
  · intro onOneLine text holds
    exact isLineLiteral_iff.mp (onOneLine text ((mem_texts_generate generated).mpr holds))
  · intro unbroken text mem
    exact isLineLiteral_iff.mpr (unbroken text ((mem_texts_generate generated).mp mem))

/-- A project with an action, a view and a static file whose names and paths have control characters
in them, but no separators. -/
theorem lineLiterals_generate_control :
    let home := (Controller.ofType "HomeController" none "Controller").withAction "Index"
    let views := [⟨"Home", "About\nus", "Views/Home/About\nus.cshtml"⟩]
    let files := [⟨"site\u0085.css", "css\\site\u0085.css"⟩]
    ∃ unit, generate [home] views files {} = .ok unit ∧
      unit.texts = ["Index", "Index", "About\nus", "~/Views/Home/About\nus.cshtml",
        "css/site\u0085.css"] ∧
      (∀ text, HoldsText [home] views files {} text → IsUnbroken text) ∧
      ∀ text ∈ unit.texts, IsLineLiteral (Expr.text text).render text := by
  intro home views files
  have clear : collision? [home] {} = none := by decide +kernel
  obtain ⟨unit, generated⟩ : ∃ unit, generate [home] views files {} = .ok unit :=
    ⟨_, generate_eq_ok_iff.mpr ⟨clear, rfl⟩⟩
  have texts : (generate [home] views files {}).map CompilationUnit.texts =
      .ok ["Index", "Index", "About\nus", "~/Views/Home/About\nus.cshtml",
        "css/site\u0085.css"] := by decide +kernel
  rw [generated] at texts
  have texts' := Except.ok.inj texts
  have unbroken : ∀ text, HoldsText [home] views files {} text → IsUnbroken text := by
    intro text holds
    have mem := (mem_texts_generate generated).mpr holds
    rw [texts'] at mem
    have all : ∀ text ∈ ["Index", "Index", "About\nus", "~/Views/Home/About\nus.cshtml",
        "css/site\u0085.css"], IsUnbroken text := by decide +kernel
    exact all text mem
  exact ⟨unit, generated, texts', unbroken, (lineLiterals_generate_iff generated).2.2.mpr unbroken⟩

/-- The literal of a line separator has the separator in it, and so does the one that the field for
a static file is set to whose path has it. -/
theorem literal_broken_by_separator :
    '\u2028' ∈ (literal "\u2028").toList ∧ '\u2028' ∈ lineEnds ∧
      ∃ unit, generate [] [] [⟨"site.css", "css/\u2028site.css"⟩] {} = .ok unit ∧
        ∃ text ∈ unit.texts, ¬ IsLineLiteral (Expr.text text).render text := by
  refine ⟨by decide, by decide, ?_⟩
  obtain ⟨unit, generated⟩ : ∃ unit,
      generate [] [] [⟨"site.css", "css/\u2028site.css"⟩] {} = .ok unit :=
    ⟨_, generate_eq_ok_iff.mpr ⟨rfl, rfl⟩⟩
  have texts : (generate [] [] [⟨"site.css", "css/\u2028site.css"⟩] {}).map
      CompilationUnit.texts = .ok ["css/\u2028site.css"] := by decide +kernel
  rw [generated] at texts
  have mem : "css/\u2028site.css" ∈ unit.texts := by
    rw [Except.ok.inj texts]
    exact List.mem_singleton_self _
  refine ⟨unit, generated, _, mem, fun isLine => ?_⟩
  exact isLineLiteral_iff.mp isLine '\u2028' (by decide) (by decide)

end TypedMvc.Synthesis
