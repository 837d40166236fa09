import TypedMvc.Proofs.Collisions
import TypedMvc.Proofs.MemberGroups
import TypedMvc.Proofs.UnitLayout

/-!
# The fields for the actions

Two classes have a field for each action, one for names and one for constants. Each of them leaves
out a field that would be called like the class itself. That never happens where the class is there:
only an action of the very same name gets such a field (`eq_of_memberIdentifier_eq`), and with it
the class is left out (`of_mem_actionClasses`). So the classes have the same fields
(`textPairs_actionClass`), and `actionFields_agree` adds that no action is lost among them if the
names of the actions are identifiers or reserved words, as these get distinct fields.
-/

namespace TypedMvc.Naming

open Unicode

/-! ## Names that are made of one name only -/

/-- Sanitizing puts an underscore in the place of each character that cannot stand in an
identifier. Exactly if what comes of that begins with a number or is reserved, an underscore or an
`@` is put in front of it. -/
theorem sanitizeChars_cons_eq_or (first : Char) (rest : List Char) :
    let replace (c : Char) : Char := if continuesIdentifier c then c else '_'
    let replaced := (first :: rest).map replace
    isNumeric (replace first) = false ∧ isKeyword (String.ofList replaced) = false ∧
        sanitizeChars (first :: rest) = replaced ∨
      (isNumeric (replace first) = true ∨ isKeyword (String.ofList replaced) = true) ∧
        ∃ front, sanitizeChars (first :: rest) = front ++ replaced ∧
          ('_' ∈ front ∨ '@' ∈ front) := by
  intro replace replaced
  let ident := if isNumeric (replace first) then '_' :: replaced else replaced
  have shape : sanitizeChars (first :: rest) =
      if isKeyword (String.ofList ident) then '@' :: ident else ident := rfl
  rw [shape]
  by_cases numeric : isNumeric (replace first) = true
  · have marked : ident = '_' :: replaced := if_pos numeric
    rw [marked]
    refine Or.inr ⟨Or.inl numeric, ?_⟩
    split
    · exact ⟨['@', '_'], rfl, Or.inr List.mem_cons_self⟩
    · exact ⟨['_'], rfl, Or.inl List.mem_cons_self⟩
  · have unmarked : ident = replaced := if_neg numeric
    rw [unmarked]
    split
    · next reserved => exact Or.inr ⟨Or.inr reserved, ['@'], rfl, Or.inr List.mem_cons_self⟩
    · next notReserved =>
      exact Or.inl ⟨Bool.eq_false_iff.mpr numeric, Bool.eq_false_iff.mpr notReserved, rfl⟩

/-- A text that is changed at all has an underscore or an `@` afterwards. -/
theorem sanitizeChars_eq_self {chars : List Char} (noLine : '_' ∉ sanitizeChars chars)
    (noSign : '@' ∉ sanitizeChars chars) : sanitizeChars chars = chars := by
  cases chars with
  | nil => exact absurd List.mem_cons_self noLine
  | cons first rest =>
    rcases sanitizeChars_cons_eq_or first rest with ⟨-, -, same⟩ | ⟨-, front, same, mark⟩
    · rw [same] at noLine ⊢
      -- No character has become an underscore, so all are as before.
      refine (List.map_congr_left fun c mem => ?_).trans (List.map_id _)
      by_contra changed
      have isLine : (if continuesIdentifier c then c else '_') = '_' :=
        if_neg fun continues => changed (if_pos continues)
      exact noLine (List.mem_map.mpr ⟨c, mem, isLine⟩)
    · rw [same, List.mem_append, not_or] at noLine noSign
      exact absurd mark (not_or.mpr ⟨noLine.1, noSign.1⟩)

/-- A name without underscores and `@` is given to nothing but what is called by it. -/
theorem eq_of_memberIdentifier_eq {name ident : String} (noLine : '_' ∉ ident.toList)
    (noSign : '@' ∉ ident.toList) (same : memberIdentifier name = ident) : name = ident := by
  unfold memberIdentifier at same
  split at same
  · exact same
  · have chars : sanitizeChars name.toList = ident.toList := by
      rw [← same, sanitize, String.toList_ofList]
    rw [← chars] at noLine noSign
    rw [← String.toList_inj, ← chars, sanitizeChars_eq_self noLine noSign]

/-- Identifiers and reserved words get distinct names. -/
theorem memberIdentifier_inj {a b : String} (usableA : isIdentifier a = true ∨ isKeyword a = true)
    (usableB : isIdentifier b = true ∨ isKeyword b = true)
    (same : memberIdentifier a = memberIdentifier b) : a = b := by
  rw [← withoutAt_memberIdentifier usableA, same, withoutAt_memberIdentifier usableB]

end TypedMvc.Naming

namespace TypedMvc.Synthesis

open Declaration Model Controller Naming

/-! ## Pairs that become fields -/

/-- It only matters which identifiers of the pairs are taken. -/
theorem firstByIdentifier_congr {taken others : List String} {pairs : List (String × String)}
    (agree : ∀ pair ∈ pairs, memberIdentifier pair.1 ∈ taken ↔ memberIdentifier pair.1 ∈ others) :
    firstByIdentifier taken pairs = firstByIdentifier others pairs := by
  induction pairs generalizing taken others with
  | nil => rfl
  | cons pair rest ih =>
    obtain ⟨name, value⟩ := pair
    have here := agree (name, value) List.mem_cons_self
    have later : ∀ pair ∈ rest,
        memberIdentifier pair.1 ∈ taken ↔ memberIdentifier pair.1 ∈ others :=
      fun pair mem => agree pair (List.mem_cons_of_mem _ mem)
    rw [firstByIdentifier, firstByIdentifier]
    by_cases known : memberIdentifier name ∈ taken
    · rw [if_pos known, if_pos (here.mp known), ih later]
    · rw [if_neg known, if_neg (mt here.mpr known)]
      refine congrArg _ (ih fun pair mem => ?_)
      rw [List.mem_cons, List.mem_cons, later pair mem]

/-- All pairs become fields if their identifiers are distinct and none is taken. -/
theorem firstByIdentifier_eq_map {taken : List String} {pairs : List (String × String)}
    (distinct : (pairs.map fun pair => memberIdentifier pair.1).Nodup)
    (free : ∀ pair ∈ pairs, memberIdentifier pair.1 ∉ taken) :
    firstByIdentifier taken pairs = pairs.map fun pair => (memberIdentifier pair.1, pair.2) := by
  induction pairs generalizing taken with
  | nil => rfl
  | cons pair rest ih =>
    obtain ⟨name, value⟩ := pair
    obtain ⟨alone, distinctRest⟩ := List.nodup_cons.mp distinct
    have freeRest : ∀ pair ∈ rest, memberIdentifier pair.1 ∉ memberIdentifier name :: taken := by
      intro pair mem known
      rcases List.mem_cons.mp known with same | known
      · exact alone (List.mem_map.mpr ⟨pair, mem, same⟩)
      · exact free pair (List.mem_cons_of_mem _ mem) known
    rw [firstByIdentifier, if_neg (free (name, value) List.mem_cons_self),
      ih distinctRest freeRest, List.map_cons]

/-- The fields of a class with the texts they hold. -/
def textPairs (node : Node) : List (String × Option String) :=
  (node.childrenOf .fieldKind).map fun field => (field.name, field.text?)

/-- Fields for texts are fields. -/
theorem filter_fieldKind_uniqueTextFields (pairs : List (String × String))
    (modifiers : List Modifier) (reserved : List String) :
    (uniqueTextFields pairs modifiers reserved).filter (fun child => child.kind == .fieldKind) =
      uniqueTextFields pairs modifiers reserved := by
  refine List.filter_eq_self.mpr fun field mem => ?_
  obtain ⟨pair, -, rfl⟩ := List.mem_map.mp mem
  rfl

/-- A class with a field for each pair has the fields of the pairs that get one. -/
theorem textPairs_textMembersClass (className : String) (pairs : List (String × String))
    (binding : Binding) :
    textPairs (textMembersClass className pairs binding) =
      (firstByIdentifier [className] pairs).map fun pair => (pair.1, some pair.2) := by
  have fields : (textMembersClass className pairs binding).children =
      uniqueTextFields pairs binding.modifiers [className] := rfl
  rw [textPairs, Node.childrenOf, fields, filter_fieldKind_uniqueTextFields, uniqueTextFields,
    List.map_map]
  rfl

/-! ## The classes for the actions -/

variable {controller : Controller} {views : List View} {node : Node}

/-- A class for the actions that is there has a field for each action as far as it gets one, and no
action is called like the class. -/
theorem of_mem_actionClasses (mem : node ∈ (controllerPart controller views).children)
    (named : node.name = actionNamesClassName ∨ node.name = actionConstantsClassName) :
    (∀ action ∈ controller.actions, action.name ≠ node.name) ∧
      ∃ binding, node = textMembersClass node.name (actionPairs controller) binding := by
  obtain ⟨group, known, isMember, free⟩ := exists_member_named_iff.mp ⟨node, mem, rfl⟩
  have kept := (keepsGroup_iff known).mpr free
  have only : ∀ other ∈ (controllerPart controller views).children,
      node.name = other.name → node = other := fun other memOther same =>
    List.inj_on_of_nodup_map (nodup_names_controllerPart controller views) mem memOther same
  refine ⟨fun action isAction same => free action isAction (same ▸ isMember), ?_⟩
  -- The class of the group that is kept has the same name, so it is this one.
  rcases named with named | named
  · obtain rfl : group = actionNamesGroup :=
      eq_of_mem_groups known (by decide) isMember (named ▸ List.mem_cons_self)
    refine ⟨.readOnly, (only (actionNamesClass controller) ?_ named).trans (named ▸ rfl)⟩
    rw [children_controllerPart, if_pos kept]
    exact List.mem_append_left _ (List.mem_append_left _ List.mem_cons_self)
  · obtain rfl : group = actionConstantsGroup :=
      eq_of_mem_groups known (by decide) isMember (named ▸ List.mem_cons_self)
    refine ⟨.constant, (only (actionConstantsClass controller) ?_ named).trans (named ▸ rfl)⟩
    rw [children_controllerPart, if_pos kept]
    exact List.mem_append_left _ (List.mem_append_right _ List.mem_cons_self)

/-- The names of the actions are those that some action has. -/
theorem mem_uniqueActionNames {name : String} :
    name ∈ controller.uniqueActionNames ↔ ∃ action ∈ controller.actions, action.name = name := by
  rw [uniqueActionNames, mem_distinctFrom, and_iff_left List.not_mem_nil, List.mem_map]

/-- A class for the actions that is there leaves out no field because of its own name. -/
theorem textPairs_actionClass (mem : node ∈ (controllerPart controller views).children)
    (named : node.name = actionNamesClassName ∨ node.name = actionConstantsClassName) :
    textPairs node =
      (firstByIdentifier [] (actionPairs controller)).map fun pair => (pair.1, some pair.2) := by
  obtain ⟨free, binding, node_eq⟩ := of_mem_actionClasses mem named
  have plain : '_' ∉ node.name.toList ∧ '@' ∉ node.name.toList := by
    rcases named with named | named
    all_goals
      rw [named]
      decide
  have avoids : ∀ pair ∈ actionPairs controller, memberIdentifier pair.1 ≠ node.name := by
    intro pair isPair same
    obtain ⟨name, isName, rfl⟩ := List.mem_map.mp isPair
    obtain ⟨action, isAction, rfl⟩ := mem_uniqueActionNames.mp isName
    exact free action isAction (eq_of_memberIdentifier_eq plain.1 plain.2 same)
  have same : firstByIdentifier [node.name] (actionPairs controller) =
      firstByIdentifier [] (actionPairs controller) := by
    refine firstByIdentifier_congr fun pair isPair => ?_
    rw [List.mem_singleton]
    exact iff_of_false (avoids pair isPair) List.not_mem_nil
  rw [node_eq, textPairs_textMembersClass, same]

/-- Actions that are called by identifiers or reserved words get distinct fields. -/
theorem nodup_identifiers_actionPairs
    (usable : ∀ action ∈ controller.actions,
      isIdentifier action.name = true ∨ isKeyword action.name = true) :
    ((actionPairs controller).map fun pair => memberIdentifier pair.1).Nodup := by
  have distinct : controller.uniqueActionNames.Nodup := nodup_distinctFrom _ _
  have usableNames : ∀ name ∈ controller.uniqueActionNames,
      isIdentifier name = true ∨ isKeyword name = true := by
    intro name isName
    obtain ⟨action, isAction, rfl⟩ := mem_uniqueActionNames.mp isName
    exact usable action isAction
  rw [actionPairs, List.map_map]
  exact distinct.map_on fun a memA b memB same =>
    memberIdentifier_inj (usableNames a memA) (usableNames b memB) same

/-- Where the part of a controller has both classes for the actions, they have the same fields with
the same texts in the same order. If the actions are called by identifiers or reserved words, each
class that is there has one field for each name of an action, in the order in which the names are
declared first, and no two of these fields have the same name. -/
theorem actionFields_agree (controller : Controller) (views : List View) :
    let members := (controllerPart controller views).children
    let names := controller.uniqueActionNames
    (∀ a ∈ members, a.name = actionNamesClassName →
      ∀ b ∈ members, b.name = actionConstantsClassName → textPairs a = textPairs b) ∧
    ((∀ action ∈ controller.actions,
        isIdentifier action.name = true ∨ isKeyword action.name = true) →
      ∀ node ∈ members, node.name = actionNamesClassName ∨ node.name = actionConstantsClassName →
        textPairs node = names.map (fun name => (memberIdentifier name, some name)) ∧
          ((textPairs node).map Prod.fst).Nodup) ∧
    names = (controller.actions.map (·.name)).eraseDups := by
  intro members names
  refine ⟨fun a memA namedA b memB namedB => ?_, fun usable node mem named => ?_,
    distinctFrom_nil _⟩
  · rw [textPairs_actionClass memA (Or.inl namedA), textPairs_actionClass memB (Or.inr namedB)]
  -- No two actions become the same identifier, so none is left out.
  · have distinct := nodup_identifiers_actionPairs usable
    have pairs : textPairs node = names.map fun name => (memberIdentifier name, some name) := by
      rw [textPairs_actionClass mem named,
        firstByIdentifier_eq_map distinct fun _ _ => List.not_mem_nil, actionPairs, List.map_map,
        List.map_map]
      rfl
    rw [actionPairs, List.map_map] at distinct
    refine ⟨pairs, ?_⟩
    rw [pairs, List.map_map]
    exact distinct

/-- A controller with two overloads of one action, an action that is called by a reserved word, and
one that takes the place of the constants: each action has one field among the names. -/
theorem actionFields_agree_reserved :
    let home := ((((Controller.ofType "HomeController" none "Controller").withAction
      "Index").withAction "class").withAction "Index").withAction "ActionNameConstants"
    let part := controllerPart home []
    (∀ action ∈ home.actions, isIdentifier action.name = true ∨ isKeyword action.name = true) ∧
      actionNamesClass home ∈ part.children ∧
      textPairs (actionNamesClass home) =
        [("Index", some "Index"), ("@class", some "class"),
          ("ActionNameConstants", some "ActionNameConstants")] ∧
      ((textPairs (actionNamesClass home)).map Prod.fst).Nodup := by
  intro home part
  have usable : ∀ action ∈ home.actions,
      isIdentifier action.name = true ∨ isKeyword action.name = true := by decide +kernel
  have mem : actionNamesClass home ∈ part.children := List.mem_cons_self
  obtain ⟨fields, distinct⟩ :=
    (actionFields_agree home []).2.1 usable (actionNamesClass home) mem (Or.inl rfl)
  have names : home.uniqueActionNames.map (fun name => (memberIdentifier name, some name)) =
      [("Index", some "Index"), ("@class", some "class"),
        ("ActionNameConstants", some "ActionNameConstants")] := by decide +kernel
  exact ⟨usable, mem, fields.trans names, distinct⟩

end TypedMvc.Synthesis
