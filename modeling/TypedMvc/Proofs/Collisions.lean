import Mathlib.Data.List.Nodup
import TypedMvc.Proofs.ClassNames
import TypedMvc.Proofs.FoundControllers
import TypedMvc.Proofs.LetterCase

/-!
# When generating fails

The check for collisions compares the names of fields, which are made from what is left of the names
of types without the suffix. Where types are called by identifiers, nothing is lost on the way: what
is left is an identifier or a reserved word (`isIdentifier_or_isKeyword`), the field has its name up
to an `@` (`withoutAt_memberIdentifier`), and so the fields of two controllers have the same name
exactly if their types have (`nodup_fieldNames_iff`). `generate_collides_iff` says with it for which
projects generating fails.
-/

namespace TypedMvc.Naming

open Unicode

/-! ## Fields called like stems -/

/-- The front of an identifier is an identifier or a reserved word. -/
theorem isIdentifier_or_isKeyword {stem suffix : String} (nonempty : stem ≠ "")
    (isIdent : isIdentifier (stem ++ suffix) = true) :
    isIdentifier stem = true ∨ isKeyword stem = true := by
  cases chars : stem.toList with
  | nil => exact absurd (String.toList_eq_nil_iff.mp chars) nonempty
  | cons first rest =>
    have whole : (stem ++ suffix).toList = first :: (rest ++ suffix.toList) := by
      rw [String.toList_append, chars, List.cons_append]
    obtain ⟨begins, continues, -⟩ := (isIdentifier_iff whole).mp isIdent
    cases reserved : isKeyword stem with
    | true => exact Or.inr rfl
    | false =>
      left
      exact (isIdentifier_iff chars).mpr
        ⟨begins, fun c mem => continues c (List.mem_append_left _ mem), reserved⟩

/-- An identifier is the name of the member that stands for it. -/
theorem memberIdentifier_of_isIdentifier {name : String} (isIdent : isIdentifier name = true) :
    memberIdentifier name = name := by
  rw [memberIdentifier, isIdent, Bool.true_or, if_pos rfl]

/-- No character of a reserved word is a number. -/
theorem isNumeric_of_isKeyword {word : String} (reserved : isKeyword word = true) {c : Char}
    (mem : c ∈ word.toList) : isNumeric c = false := by
  have inside := bounds_of_isKeyword reserved mem
  rw [isNumeric, Ranges.has_eq_false (by decide +kernel) inside,
    Ranges.has_eq_false (by decide +kernel) inside,
    Ranges.has_eq_false (by decide +kernel) inside]
  rfl

/-- The member that stands for a reserved word is that word behind an `@`. -/
theorem memberIdentifier_of_isKeyword {word : String} (reserved : isKeyword word = true) :
    memberIdentifier word = String.ofList ('@' :: word.toList) := by
  have kept : word.toList.map (fun c => if continuesIdentifier c then c else '_') =
      word.toList := by
    refine (List.map_congr_left fun c mem => ?_).trans (List.map_id word.toList)
    exact if_pos (continuesIdentifier_of_isKeyword reserved mem)
  cases chars : word.toList with
  | nil =>
    rw [String.toList_eq_nil_iff.mp chars] at reserved
    exact absurd reserved (by decide)
  | cons first rest =>
    have mem : first ∈ word.toList := chars ▸ List.mem_cons_self
    have notIdent : isIdentifier word = false := by
      rw [Bool.eq_false_iff, ne_eq, isIdentifier_iff chars, reserved]
      exact fun isIdent => Bool.false_ne_true isIdent.2.2.symm
    have notEscaped : isEscapedKeyword word = false := by
      rw [Bool.eq_false_iff, ne_eq, isEscapedKeyword_iff, chars]
      rintro ⟨-, sign⟩
      rw [(List.cons.inj sign).1] at mem
      exact absurd (bounds_of_isKeyword reserved mem).1 (by decide)
    rw [memberIdentifier, notIdent, notEscaped, if_neg (by decide), sanitize, sanitizeChars, kept,
      chars]
    dsimp only
    rw [isNumeric_of_isKeyword reserved mem, if_neg Bool.false_ne_true, ← chars,
      String.ofList_toList, if_pos reserved]

/-- The member that stands for an identifier or a reserved word has its name up to an `@`. -/
theorem withoutAt_memberIdentifier {name : String}
    (usable : isIdentifier name = true ∨ isKeyword name = true) :
    withoutAt (memberIdentifier name) = name := by
  rcases usable with isIdent | reserved
  · rw [memberIdentifier_of_isIdentifier isIdent, withoutAt_of_isIdentifier isIdent]
  · rw [memberIdentifier_of_isKeyword reserved, withoutAt, String.toList_ofList]
    exact String.ofList_toList

end TypedMvc.Naming

namespace TypedMvc.Synthesis

open Controllers Model Naming Symbols

variable {snapshot : Snapshot} {suffix : String}

/-! ## The fields of the controllers that are found -/

/-- The type of a controller that is found has the name of a declared type. -/
theorem isIdentifier_typeName (idents : ∀ t ∈ snapshot.types, isIdentifier t.name = true)
    {merged : MergedType} (mem : merged ∈ mergeParts snapshot.types) :
    isIdentifier merged.type.name = true := by
  obtain ⟨⟨part, declared, -, name, -⟩, -⟩ := mem_mergeParts mem
  rw [← name]
  exact idents part declared

/-- The type of a controller is called like its field up to an `@`, with the suffix behind it. -/
theorem typeName_eq_of_mem_discover (idents : ∀ t ∈ snapshot.types, isIdentifier t.name = true)
    {controller : Controller} (mem : controller ∈ discover suffix snapshot) :
    controller.typeName = withoutAt (fieldNameOf controller) ++ suffix := by
  rw [discover_eq] at mem
  obtain ⟨merged, found, rfl⟩ := List.mem_map.mp mem
  obtain ⟨merges, type⟩ := mem_controllerTypes.mp found
  obtain ⟨stem, nonempty, name_eq⟩ := type.isSuffixed
  have isIdent := isIdentifier_typeName idents merges
  rw [name_eq] at isIdent
  have field : fieldNameOf (controllerOf suffix merged) = memberIdentifier stem := by
    change memberIdentifier (stripSuffix merged.type.name suffix) = _
    rw [name_eq, stripSuffix_append nonempty]
  rw [field, withoutAt_memberIdentifier (isIdentifier_or_isKeyword nonempty isIdent)]
  exact name_eq

/-- The fields of the controllers have distinct names exactly if their types have. -/
theorem nodup_fieldNames_iff (idents : ∀ t ∈ snapshot.types, isIdentifier t.name = true) :
    ((discover suffix snapshot).map fieldNameOf).Nodup ↔
      ((discover suffix snapshot).map (·.typeName)).Nodup := by
  constructor
  · exact nodup_typeNames_of_fieldNames fun controller mem => name_of_mem_discover mem
  · intro distinct
    have types : (discover suffix snapshot).map (·.typeName) =
        ((discover suffix snapshot).map fieldNameOf).map fun field =>
          withoutAt field ++ suffix := by
      rw [List.map_map]
      exact List.map_congr_left fun controller mem => typeName_eq_of_mem_discover idents mem
    rw [types] at distinct
    exact distinct.of_map

/-- The field of a controller is called like an identifier exactly if the type is called like this
with the suffix behind it. -/
theorem fieldNameOf_eq_iff (idents : ∀ t ∈ snapshot.types, isIdentifier t.name = true)
    {controller : Controller} (mem : controller ∈ discover suffix snapshot) {name : String}
    (isIdent : isIdentifier name = true) :
    fieldNameOf controller = name ↔ controller.typeName = name ++ suffix := by
  have typeName := typeName_eq_of_mem_discover idents mem
  constructor
  · intro same
    rw [typeName, same, withoutAt_of_isIdentifier isIdent]
  · intro same
    rw [typeName, String.append_left_inj] at same
    exact eq_of_withoutAt_eq (isMemberName_memberIdentifier _) (Or.inl isIdent)
      (same.trans (withoutAt_of_isIdentifier isIdent).symm)

/-- Two of the controllers that are found have types of the same name exactly if there are types of
the same name in different namespaces that are controllers. -/
theorem not_nodup_typeNames_iff :
    ¬ ((discover suffix snapshot).map (·.typeName)).Nodup ↔
      ∃ a ∈ controllerTypes suffix snapshot, ∃ b ∈ controllerTypes suffix snapshot,
        a.type.name = b.type.name ∧ a.type.namespaceName ≠ b.type.namespaceName := by
  have names : (discover suffix snapshot).map (·.typeName) =
      (controllerTypes suffix snapshot).map fun merged => merged.type.name := by
    rw [discover_eq, List.map_map]
    rfl
  rw [names]
  constructor
  · intro repeated
    by_contra apart
    push Not at apart
    -- With the namespaces the qualified names would agree, and merging keeps these distinct.
    have distinct : (controllerTypes suffix snapshot).Pairwise fun a b =>
        a.type.qualifiedName ≠ b.type.qualifiedName :=
      (pairwise_mergeParts snapshot.types).sublist List.filter_sublist
    refine repeated (List.pairwise_map.mpr (distinct.imp_of_mem ?_))
    intro a b memA memB other name
    refine other ?_
    rw [TypeSymbol.qualifiedName, TypeSymbol.qualifiedName, name, apart a memA b memB name,
      (mem_controllerTypes.mp memA).2.isTopLevel, (mem_controllerTypes.mp memB).2.isTopLevel]
  · rintro ⟨a, memA, b, memB, name, space⟩ distinct
    have same := List.inj_on_of_nodup_map distinct memA memB name
    exact space (congrArg (fun merged => merged.type.namespaceName) same)

/-! ## The verdict -/

/-- Generating fails exactly if the check finds a collision. -/
theorem exists_generate_eq_error_iff {controllers : List Controller} {views : List View}
    {files : List StaticFile} {settings : Settings.Generation} :
    (∃ collision, generate controllers views files settings = .error collision) ↔
      collision? controllers settings ≠ none := by
  unfold generate
  cases collision? controllers settings with
  | none => simp
  | some collision => simp

/-- Generating for the controllers of a project fails exactly if two of them have types of the same
name, or the type of one is called like the class for the controllers with the suffix behind it. Two
types of the same name are always in different namespaces. -/
theorem generate_collides_iff {settings : Settings.Generation}
    (idents : ∀ t ∈ snapshot.types, isIdentifier t.name = true) (valid : settings.fault? = none)
    (views : List View) (files : List StaticFile) :
    let controllers := discover settings.controllerSuffix snapshot
    let types := (mergeParts snapshot.types).filter fun merged =>
      IsControllerType settings.controllerSuffix snapshot merged.type
    ((∃ collision, generate controllers views files settings = .error collision) ↔
      (∃ a ∈ types, ∃ b ∈ types, a.type.name = b.type.name ∧
        a.type.namespaceName ≠ b.type.namespaceName) ∨
      ∃ c ∈ controllers, c.typeName = settings.helpersPrefix ++ settings.controllerSuffix) ∧
    ((∃ a ∈ types, ∃ b ∈ types, a.type.name = b.type.name ∧
        a.type.namespaceName ≠ b.type.namespaceName) ↔
      ¬ (controllers.map (·.typeName)).Nodup) := by
  intro controllers types
  have twins := @not_nodup_typeNames_iff snapshot settings.controllerSuffix
  have isIdent := (Settings.Generation.fault?_eq_none_iff.mp valid).1
  refine ⟨?_, twins.symm⟩
  -- Names of fields are the same exactly if the names of the types are.
  have clear : collision? controllers settings = none ↔
      (controllers.map (·.typeName)).Nodup ∧
        ∀ c ∈ controllers, c.typeName ≠ settings.helpersPrefix ++ settings.controllerSuffix := by
    rw [collision?, collisionFrom_eq_none_iff, nodup_fieldNames_iff idents]
    refine and_congr_right fun _ => forall₂_congr fun c mem => ?_
    rw [Ne, fieldNameOf_eq_iff idents mem isIdent]
    simp
  rw [exists_generate_eq_error_iff, Ne, clear, not_and_or, twins]
  push Not
  rfl

/-- Two controllers of one name in different namespaces collide, and a third one whose name without
the suffix is a reserved word does not matter. -/
theorem generate_collides_twins :
    let home := { publicClass "HomeController" [] with
      attributes := ["Controller"], namespaceName := some "App" }
    let twin := { home with namespaceName := some "Admin" }
    let reserved := { home with name := "classController" }
    let snapshot : Snapshot := ⟨[home, reserved, twin], []⟩
    let settings : Settings.Generation := {}
    (∀ t ∈ snapshot.types, isIdentifier t.name = true) ∧ settings.fault? = none ∧
      (discover settings.controllerSuffix snapshot).map fieldNameOf = ["Home", "@class", "Home"] ∧
      ∃ collision, generate (discover settings.controllerSuffix snapshot) [] [] settings =
        .error collision := by
  intro home twin reserved snapshot settings
  have idents : ∀ t ∈ snapshot.types, isIdentifier t.name = true := by decide +kernel
  have valid : settings.fault? = none := by decide +kernel
  refine ⟨idents, valid, by decide +kernel, ?_⟩
  refine ((generate_collides_iff idents valid [] []).1).mpr (Or.inl ?_)
  exact ⟨.ofPart home, by decide +kernel, .ofPart twin, by decide +kernel, rfl, by decide⟩

end TypedMvc.Synthesis
