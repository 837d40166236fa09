import Mathlib.Data.List.Forall2
import Mathlib.Data.List.TakeWhile
import TypedMvc.Proofs.LetterCase

/-!
# The lower-case form of a text

`IsLowerCaseOf` says what the lower-case form of a text is by the places of its characters: each
character has a form of its own, but for the capital sigma, whose form is the final one at the end
of a word. Lower-casing, which goes through a text once and keeps what it has passed, gives just
that form (`isLowerCaseOf_iff`). So a comparison that ignores case is one of lower-case forms, and
with it an equivalence of texts (`eqIgnoreCase_equivalence`).

What was lower-cased stays as it is (`lower_lower`), as no form of a capital is a capital of the
table itself (`lowerSimple_cases`). From this follows for which texts the lower-case form is
one by the case of ASCII letters (`eqIgnoreAsciiCase_lower_iff`).
-/

namespace TypedMvc.Unicode

/-! ## The form of a character at its place -/

/-- The first character of a text that is not skipped is a cased letter. -/
def BeginsCased (text : List Char) : Prop :=
  ∃ skipped c rest, text = skipped ++ c :: rest ∧ (∀ d ∈ skipped, isCaseIgnorable d = true) ∧
    isCaseIgnorable c = false ∧ isCased c = true

/-- A place is at the end of a word: looking back from it a cased letter comes first, and looking
ahead none. -/
structure EndsWord (text : List Char) (place : Nat) : Prop where
  /-- There is a cased letter in front of the place. -/
  behind : BeginsCased (text.take place).reverse
  /-- There is none after it. -/
  ahead : ¬ BeginsCased (text.drop (place + 1))

/-- What becomes of a character at a place of a text. -/
inductive LowersAt (text : List Char) (place : Nat) : Char → List Char → Prop
  /-- The capital sigma at the end of a word becomes the final one. -/
  | final (ends : EndsWord text place) : LowersAt text place capitalSigma ['\u03c2']
  /-- Elsewhere it becomes the small sigma. -/
  | sigma (inside : ¬ EndsWord text place) : LowersAt text place capitalSigma ['\u03c3']
  /-- The capital I with a dot becomes two characters. -/
  | dotted : LowersAt text place '\u0130' ['i', '\u0307']
  /-- Every other character becomes the one of the table, whatever stands around it. -/
  | simple (c : Char) (noSigma : c ≠ capitalSigma) (notDotted : c ≠ '\u0130') :
    LowersAt text place c [lowerSimple c]

/-- A text is the lower-case form of another one: that of its characters, one after the other. -/
def IsLowerCaseOf (lowered text : List Char) : Prop :=
  ∃ forms : List (List Char), lowered = forms.flatten ∧
    List.Forall₂ (fun placed form => LowersAt text placed.2 placed.1 form) text.zipIdx forms

variable {text before rest lowered : List Char} {c : Char}

/-- Looking for a cased letter passes over what is skipped. -/
theorem casedAhead_iff : casedAhead text = true ↔ BeginsCased text := by
  have split := List.takeWhile_append_dropWhile (p := isCaseIgnorable) (l := text)
  constructor
  · intro cased
    rw [casedAhead] at cased
    cases ahead : text.dropWhile isCaseIgnorable with
    | nil => simp [ahead] at cased
    | cons c rest =>
      rw [ahead] at cased split
      have stops : isCaseIgnorable c = false := by
        have first := List.head?_dropWhile_not isCaseIgnorable text
        rw [ahead] at first
        exact first
      exact ⟨_, c, rest, split.symm, fun d mem => List.mem_takeWhile_imp mem, stops, cased⟩
  · rintro ⟨skipped, c, rest, rfl, passed, stops, cased⟩
    have ahead : (skipped ++ c :: rest).dropWhile isCaseIgnorable = c :: rest := by
      rw [List.dropWhile_append_of_pos passed, List.dropWhile_cons_of_neg (by simp [stops])]
    rw [casedAhead, ahead]
    exact cased

/-- The sigma behind a text and in front of another one is at the end of a word exactly if its
lower-case form is the final one. -/
theorem endsWord_iff :
    EndsWord (before.reverse ++ c :: rest) before.length ↔
      casedAhead before = true ∧ casedAhead rest = false := by
  have front : (before.reverse ++ c :: rest).take before.length = before.reverse := by
    rw [← List.length_reverse, List.take_left]
  have back : (before.reverse ++ c :: rest).drop (before.length + 1) = rest := by
    rw [← List.length_reverse, ← List.drop_drop, List.drop_left, List.drop_one, List.tail_cons]
  constructor
  · rintro ⟨behind, ahead⟩
    rw [front, List.reverse_reverse] at behind
    rw [back] at ahead
    exact ⟨casedAhead_iff.mpr behind, Bool.eq_false_iff.mpr (mt casedAhead_iff.mp ahead)⟩
  · rintro ⟨behind, ahead⟩
    refine ⟨?_, ?_⟩
    · rw [front, List.reverse_reverse]
      exact casedAhead_iff.mp behind
    · rw [back]
      exact mt casedAhead_iff.mpr (Bool.eq_false_iff.mp ahead)

/-- At its place a character becomes what lower-casing makes of it there. -/
theorem lowersAt_iff {form : List Char} :
    LowersAt (before.reverse ++ c :: rest) before.length c form ↔
      form = if c = capitalSigma then [lowerSigma before rest] else lowerChar c := by
  have dottedSigma : '\u0130' ≠ capitalSigma := by decide
  -- What is around a character matters for a capital sigma only.
  constructor
  · rintro (ends | inside | _ | ⟨_, noSigma, notDotted⟩)
    · obtain ⟨behind, ahead⟩ := endsWord_iff.mp ends
      rw [if_pos rfl, lowerSigma, behind, ahead]
      rfl
    · rw [endsWord_iff, not_and_or, Bool.not_eq_true, Bool.not_eq_false] at inside
      rw [if_pos rfl, lowerSigma]
      rcases inside with noLetter | letter
      · rw [noLetter]
        rfl
      · rw [letter, Bool.not_true, Bool.and_false]
        rfl
    · rw [if_neg dottedSigma, lowerChar, if_pos rfl]
    · rw [if_neg noSigma, lowerChar, if_neg notDotted]
  · rintro rfl
    split
    · rename_i isSigma
      subst isSigma
      rw [lowerSigma]
      split
      · rename_i isFinal
        rw [Bool.and_eq_true, Bool.not_eq_true'] at isFinal
        exact .final (endsWord_iff.mpr isFinal)
      · rename_i notFinal
        rw [Bool.and_eq_true, Bool.not_eq_true'] at notFinal
        exact .sigma (mt endsWord_iff.mp notFinal)
    · rename_i noSigma
      rw [lowerChar]
      split
      · rename_i isDotted
        subst isDotted
        exact .dotted
      · rename_i notDotted
        exact .simple c noSigma notDotted

/-- Lower-casing the rest of a text gives the forms of its characters at their places. -/
theorem lowerFrom_iff (before text : List Char) :
    (∃ forms : List (List Char), lowered = forms.flatten ∧
      List.Forall₂ (fun placed form => LowersAt (before.reverse ++ text) placed.2 placed.1 form)
        (text.zipIdx before.length) forms) ↔ lowered = lowerFrom before text := by
  -- What was passed grows by one character at a time, and the whole text stays the same.
  induction text generalizing before lowered with
  | nil =>
    simp only [List.zipIdx_nil, List.forall₂_nil_left_iff, lowerFrom]
    constructor
    · rintro ⟨_, rfl, rfl⟩
      rfl
    · rintro rfl
      exact ⟨[], rfl, rfl⟩
  | cons c rest ih =>
    have whole : before.reverse ++ c :: rest = (c :: before).reverse ++ rest := by simp
    rw [lowerFrom, List.zipIdx_cons]
    constructor
    · rintro ⟨_, rfl, forms⟩
      obtain ⟨form, later, here, further, rfl⟩ := List.forall₂_cons_left_iff.mp forms
      rw [whole] at further
      rw [List.flatten_cons, lowersAt_iff.mp here, (ih (c :: before)).mp ⟨later, rfl, further⟩]
    · rintro rfl
      obtain ⟨later, same, further⟩ := (ih (c :: before)).mpr rfl
      rw [← whole] at further
      exact ⟨_ :: later, by rw [List.flatten_cons, same], .cons (lowersAt_iff.mpr rfl) further⟩

/-- The lower-case form of a text is what lower-casing gives. -/
theorem isLowerCaseOf_iff {s : String} :
    IsLowerCaseOf lowered s.toList ↔ lowered = (lower s).toList := by
  rw [lower, String.toList_ofList]
  exact lowerFrom_iff [] s.toList

/-! ## What was lower-cased -/

/-- The lower-case forms of the capitals of a run. -/
def LowerRun.forms (run : LowerRun) : List Nat :=
  (List.range ((run.last - run.first) / run.step + 1)).map fun k => run.target + k * run.step

/-- No lower-case form of a run is a capital of another one: the two lie apart, or one runs between
the others. -/
def LowerRun.clears (run other : LowerRun) : Bool :=
  Nat.blt other.last run.target || Nat.blt (run.target + (run.last - run.first)) other.first ||
    run.forms.all fun n => !other.has n

/-- The lower-case forms of a run are characters other than the capital I with a dot. -/
def LowerRun.isSound (run : LowerRun) : Bool :=
  run.forms.all fun n => n.isValidChar && n != '\u0130'.toNat

/-- The capitals of a run, as numbers. -/
theorem LowerRun.has_iff {run : LowerRun} {n : Nat} :
    run.has n = true ↔ run.first ≤ n ∧ n ≤ run.last ∧ (n - run.first) % run.step = 0 := by
  simp [LowerRun.has, and_assoc]

/-- The lower-case form of a capital of a run is one of the forms of the run. -/
theorem LowerRun.mem_forms {run : LowerRun} {n : Nat} (has : run.has n = true) :
    run.target + (n - run.first) ∈ run.forms := by
  obtain ⟨-, bound, multiple⟩ := LowerRun.has_iff.mp has
  have split := Nat.div_add_mod' (n - run.first) run.step
  rw [multiple, Nat.add_zero] at split
  have inside : (n - run.first) / run.step ≤ (run.last - run.first) / run.step :=
    Nat.div_le_div_right (Nat.sub_le_sub_right bound run.first)
  exact List.mem_map.mpr ⟨_, List.mem_range.mpr (Nat.lt_succ_of_le inside), by rw [split]⟩

/-- No run of the table leads into another one. -/
theorem clears_of_mem {run other : LowerRun} (mem : run ∈ lowerRuns) (mem' : other ∈ lowerRuns) :
    run.clears other = true := by
  have all : (lowerRuns.all fun run => lowerRuns.all run.clears) = true := by decide +kernel
  exact List.all_eq_true.mp (List.all_eq_true.mp all run mem) other mem'

/-- Every run of the table leads to characters other than the capital I with a dot. -/
theorem isSound_of_mem {run : LowerRun} (mem : run ∈ lowerRuns) : run.isSound = true := by
  have all : lowerRuns.all LowerRun.isSound = true := by decide +kernel
  exact List.all_eq_true.mp all run mem

/-- The lower-case form of a capital of the table is no capital of the table. -/
theorem has_form_eq_false {run other : LowerRun} {n : Nat} (mem : run ∈ lowerRuns)
    (mem' : other ∈ lowerRuns) (has : run.has n = true) :
    other.has (run.target + (n - run.first)) = false := by
  have clears := clears_of_mem mem mem'
  rw [LowerRun.clears, Bool.or_eq_true, Bool.or_eq_true, Nat.blt_eq, Nat.blt_eq] at clears
  rcases clears with (below | above) | between
  · have outside : ¬ run.target + (n - run.first) ≤ other.last := by omega
    exact Bool.eq_false_iff.mpr fun inside => outside (LowerRun.has_iff.mp inside).2.1
  · have bound : n ≤ run.last := (LowerRun.has_iff.mp has).2.1
    have outside : ¬ other.first ≤ run.target + (n - run.first) := by omega
    exact Bool.eq_false_iff.mpr fun inside => outside (LowerRun.has_iff.mp inside).1
  · have free := List.all_eq_true.mp between _ (LowerRun.mem_forms has)
    rwa [Bool.not_eq_true'] at free

/-- A character that no run has stays as it is. -/
theorem lowerSimple_eq_self (free : ∀ run ∈ lowerRuns, run.has c.toNat = false) :
    lowerSimple c = c := by
  have none_has : lowerRuns.find? (·.has c.toNat) = none := by
    rw [List.find?_eq_none]
    intro run mem
    rw [free run mem]
    exact Bool.false_ne_true
  rw [lowerSimple, none_has]

/-- A character either is no capital of the table and stays as it is, or becomes a character that is
none and not the capital I with a dot. -/
theorem lowerSimple_cases (c : Char) :
    lowerSimple c = c ∨ lowerSimple c ≠ '\u0130' ∧ lowerSimple (lowerSimple c) = lowerSimple c := by
  cases found : lowerRuns.find? (·.has c.toNat) with
  | none => exact Or.inl (by rw [lowerSimple, found])
  | some run =>
    have mem : run ∈ lowerRuns := List.mem_of_find?_eq_some found
    have has : run.has c.toNat = true := by simpa using List.find?_some found
    have form : lowerSimple c = Char.ofNat (run.target + (c.toNat - run.first)) := by
      rw [lowerSimple, found]
    have sound := List.all_eq_true.mp (isSound_of_mem mem) _ (LowerRun.mem_forms has)
    rw [Bool.and_eq_true, decide_eq_true_iff, bne_iff_ne] at sound
    have code : (lowerSimple c).toNat = run.target + (c.toNat - run.first) := by
      rw [form, Char.ofNat, dif_pos sound.1]
      rfl
    refine Or.inr ⟨fun isDotted => sound.2 (by rw [← code, isDotted]), ?_⟩
    exact lowerSimple_eq_self fun other mem' => code ▸ has_form_eq_false mem mem' has

/-- The characters that stand for the capital I with a dot and for the capital sigma stay as they
are. -/
theorem lowerChar_of_mem_special {d : Char} (mem : d ∈ ['i', '\u0307', '\u03c2', '\u03c3']) :
    lowerChar d = [d] := by
  have outside : (['i', '\u0307', '\u03c2', '\u03c3'].all fun d =>
      lowerRuns.all fun run => !run.has d.toNat) = true := by decide +kernel
  have free : ∀ run ∈ lowerRuns, run.has d.toNat = false := by
    intro run inTable
    have single := List.all_eq_true.mp (List.all_eq_true.mp outside d mem) run inTable
    rwa [Bool.not_eq_true'] at single
  have notDotted : d ≠ '\u0130' := by
    rintro rfl
    exact absurd mem (by decide)
  rw [lowerChar, if_neg notDotted, lowerSimple_eq_self free]

/-- What a character becomes stays as it is. -/
theorem lowerChar_of_mem {d : Char} (mem : d ∈ lowerChar c) : lowerChar d = [d] := by
  rw [lowerChar] at mem
  split at mem
  · exact lowerChar_of_mem_special (List.mem_append_left ['\u03c2', '\u03c3'] mem)
  · rename_i notDotted
    rw [List.mem_singleton] at mem
    subst mem
    rcases lowerSimple_cases c with stays | ⟨other, stays⟩
    · rw [stays, lowerChar, if_neg notDotted, stays]
    · rw [lowerChar, if_neg other, stays]

/-- A capital sigma does not stay as it is. -/
theorem lowerChar_capitalSigma : lowerChar capitalSigma = ['\u03c3'] := by decide +kernel

/-- A sigma that was lower-cased is one of the two small ones. -/
theorem lowerSigma_mem (before after : List Char) :
    lowerSigma before after ∈ ['\u03c2', '\u03c3'] := by
  rw [lowerSigma]
  split <;> decide

/-- Everything in a text that was lower-cased stays as it is. -/
theorem lowerChar_of_mem_lowerFrom {before text : List Char} {d : Char}
    (mem : d ∈ lowerFrom before text) : lowerChar d = [d] := by
  induction text generalizing before with
  | nil => exact absurd mem List.not_mem_nil
  | cons c rest ih =>
    rw [lowerFrom, List.mem_append] at mem
    rcases mem with here | later
    · split at here
      · rw [List.mem_singleton] at here
        have sigma : d ∈ ['\u03c2', '\u03c3'] := here ▸ lowerSigma_mem before rest
        exact lowerChar_of_mem_special (List.mem_append_right ['i', '\u0307'] sigma)
      · exact lowerChar_of_mem here
    · exact ih later

/-- A text in which everything stays as it is has no other lower-case form. -/
theorem lowerFrom_eq_self {before text : List Char} (stay : ∀ c ∈ text, lowerChar c = [c]) :
    lowerFrom before text = text := by
  induction text generalizing before with
  | nil => rfl
  | cons c rest ih =>
    obtain ⟨here, later⟩ := List.forall_mem_cons.mp stay
    have noSigma : c ≠ capitalSigma := by
      rintro rfl
      rw [lowerChar_capitalSigma] at here
      exact absurd here (by decide)
    rw [lowerFrom, if_neg noSigma, here, ih later, List.singleton_append]

/-- Everything in a lower-case form stays as it is. -/
theorem lowerChar_of_mem_lower {s : String} (mem : c ∈ (lower s).toList) : lowerChar c = [c] := by
  rw [lower, String.toList_ofList] at mem
  exact lowerChar_of_mem_lowerFrom mem

/-- Lower-casing a second time changes nothing. -/
theorem lower_lower (s : String) : lower (lower s) = lower s := by
  have same : lowerFrom [] (lower s).toList = (lower s).toList :=
    lowerFrom_eq_self fun c mem => lowerChar_of_mem_lower mem
  rw [lower, same, String.ofList_toList]

/-! ## Texts that are lower-cased like ASCII -/

/-- What stays as it is has no other lower-case form in ASCII either. -/
theorem lowerAscii_eq_self (c : Char) : lowerChar c = [c] → lowerAscii c = c := by
  revert c
  exact forall_of_capitals (by decide +kernel) fun c fixed _ => fixed

/-- A character becomes at least one. -/
theorem one_le_length_lowerChar (c : Char) : 1 ≤ (lowerChar c).length := by
  rw [lowerChar]
  split
  · exact Nat.le_succ 1
  · exact Nat.le_refl 1

/-- Nothing is lost when a text is lower-cased. -/
theorem length_le_length_lowerFrom (before text : List Char) :
    text.length ≤ (lowerFrom before text).length := by
  induction text generalizing before with
  | nil => exact Nat.zero_le _
  | cons c rest ih =>
    have later := ih (c :: before)
    have here :
        1 ≤ (if c = capitalSigma then [lowerSigma before rest] else lowerChar c).length := by
      split
      · exact Nat.le_refl 1
      · exact one_le_length_lowerChar c
    rw [lowerFrom, List.length_append, List.length_cons]
    omega

/-- Only ASCII letters change when a text is lower-cased exactly if each character has the
lower-case form that it has in ASCII. -/
theorem lowerFrom_eq_map_lowerAscii_iff (before text : List Char) :
    lowerFrom before text = text.map lowerAscii ↔ ∀ c ∈ text, lowerChar c = [lowerAscii c] := by
  induction text generalizing before with
  | nil => simp [lowerFrom]
  | cons c rest ih =>
    have sigma : lowerAscii capitalSigma ∉ ['\u03c2', '\u03c3'] := by decide
    rw [lowerFrom, List.map_cons, List.forall_mem_cons, ← ih (c :: before)]
    constructor
    · intro same
      by_cases isSigma : c = capitalSigma
      · -- A capital sigma becomes a small one, which ASCII does not know of.
        subst isSigma
        rw [if_pos rfl, List.singleton_append] at same
        exact absurd ((List.cons.inj same).1 ▸ lowerSigma_mem before rest) sigma
      · rw [if_neg isSigma] at same
        have length := congrArg List.length same
        rw [List.length_append, List.length_cons, List.length_map] at length
        have later := length_le_length_lowerFrom (c :: before) rest
        have some := one_le_length_lowerChar c
        have single : (lowerChar c).length = [lowerAscii c].length := by
          rw [List.length_singleton]
          omega
        rw [← List.singleton_append] at same
        exact List.append_inj same single
    · rintro ⟨here, later⟩
      have noSigma : c ≠ capitalSigma := by
        rintro rfl
        rw [lowerChar_capitalSigma] at here
        exact sigma ((List.cons.inj here).1 ▸ by decide)
      rw [if_neg noSigma, here, later, List.singleton_append]

end TypedMvc.Unicode

namespace TypedMvc.Naming

open Unicode

/-- A text and its lower-case form differ in the case of ASCII letters only exactly if each of its
characters has the lower-case form that it has in ASCII. -/
theorem eqIgnoreAsciiCase_lower_iff {s : String} :
    eqIgnoreAsciiCase (lower s) s = true ↔ ∀ c ∈ s.toList, lowerChar c = [lowerAscii c] := by
  have lowered : (lower s).toList.map lowerAscii = (lower s).toList := by
    calc (lower s).toList.map lowerAscii = (lower s).toList.map id :=
          List.map_congr_left fun c mem => lowerAscii_eq_self c (lowerChar_of_mem_lower mem)
      _ = (lower s).toList := List.map_id _
  rw [eqIgnoreAsciiCase, beq_iff_eq, lowered, lower, String.toList_ofList]
  exact lowerFrom_eq_map_lowerAscii_iff [] s.toList

/-- Whether two names differ in case only is whether they have one lower-case form, with the final
sigma and all characters that become several; the comparison by the case of ASCII letters finds no
pair that the other one does not. So names that differ in case only make up classes. -/
theorem eqIgnoreCase_equivalence :
    (∀ a b : String, eqIgnoreCase a b = true ↔
      ∃ lowered, IsLowerCaseOf lowered a.toList ∧ IsLowerCaseOf lowered b.toList) ∧
    (∀ a b : String, eqIgnoreCase a b = (lower a == lower b)) ∧
    Equivalence fun a b : String => eqIgnoreCase a b = true := by
  refine ⟨fun a b => ?_, fun a b => ?_, ?_⟩
  · rw [eqIgnoreCase_iff]
    simp only [isLowerCaseOf_iff, exists_eq_left, String.toList_inj]
  · rw [Bool.eq_iff_iff, eqIgnoreCase_iff, beq_iff_eq]
  · simp only [eqIgnoreCase_iff]
    exact ⟨fun _ => rfl, Eq.symm, Eq.trans⟩

end TypedMvc.Naming
