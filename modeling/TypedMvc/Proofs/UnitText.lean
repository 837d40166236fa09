import TypedMvc.Proofs.DeclarationTrees
import TypedMvc.Synthesis.Generate

/-!
# Reading a unit from its text

The members of a unit are namespaces, and what is in the global one stands between the others
without a block of its own. So the lines of a unit are those of its named namespaces and of the
classes of the global one in order (`Node.shown`, `linesOfAll_flatMap_shown`), which can be read one
by one. The lines do not say where the global namespace is, but its classes do: there is only one
such namespace, and it has at least one class (`flatMap_shown_inj`).
`CompilationUnit.IsLegible.eq_of_render_eq` puts this together for whole texts.
-/

namespace TypedMvc.Declaration

open Synthesis

/-! ## The namespaces of a unit -/

/-- A namespace of a unit: it has classes that can be read, and its name is a word unless it is the
global one. -/
structure Node.IsSpace (node : Node) : Prop where
  /-- It is a namespace. -/
  isNamespace : node.content = .ofNamespace
  /-- A namespace has no modifiers. -/
  unmodified : node.modifiers = []
  /-- A namespace has no attributes. -/
  unattributed : node.attributes = []
  /-- The name is a word if there is one. -/
  isWord : node.name ≠ "" → IsWord node.name
  /-- There is something in it. -/
  inhabited : node.children ≠ []
  /-- Only classes are in it. -/
  classes : ∀ child ∈ node.children, child.kind = .classKind
  /-- The classes can be read. -/
  legible : ∀ child ∈ node.children, child.IsLegible

/-- A namespace is given by its name and what is inside it. -/
theorem Node.IsSpace.eq_mk {node : Node} (space : node.IsSpace) :
    node = .mk .ofNamespace node.name [] [] node.children := by
  obtain ⟨isNamespace, unmodified, unattributed, -, -, -, -⟩ := space
  cases node with
  | mk content name modifiers attributes children =>
    obtain rfl : content = .ofNamespace := isNamespace
    obtain rfl : modifiers = [] := unmodified
    obtain rfl : attributes = [] := unattributed
    rfl

/-- A namespace is of that kind. -/
theorem Node.IsSpace.kind_eq {node : Node} (space : node.IsSpace) : node.kind = .namespaceKind := by
  rw [space.eq_mk]
  rfl

/-- A named namespace can be read. -/
theorem Node.IsSpace.isLegible {node : Node} (space : node.IsSpace) (named : node.name ≠ "") :
    node.IsLegible := by
  rw [space.eq_mk]
  exact .mk trivial (space.isWord named) (Or.inl rfl) (fun _ => rfl) nofun space.legible

/-! ## What the lines show -/

/-- What a namespace shows on the lines: itself, or the classes in it if it is the global one. -/
def Node.shown (node : Node) : List Node := if node.name = "" then node.children else [node]

/-- The global namespace shows the classes in it. -/
theorem Node.shown_of_unnamed {node : Node} (unnamed : node.name = "") :
    node.shown = node.children := if_pos unnamed

/-- A named namespace shows itself. -/
theorem Node.shown_of_named {node : Node} (named : node.name ≠ "") : node.shown = [node] :=
  if_neg named

/-- What stands behind a class or a namespace does not depend on which of them it is. -/
theorem linesOfAll_standsApart {before other : Kind} (apart : before.standsApart = true)
    (apart' : other.standsApart = true) (depth : Nat) (nodes : List Node) :
    linesOfAll depth (some before) nodes = linesOfAll depth (some other) nodes := by
  cases nodes with
  | nil => rw [linesOfAll, linesOfAll]
  | cons node rest =>
    rw [linesOfAll, linesOfAll, separation, separation, apart, apart', Bool.or_true]

/-- Declarations behind classes look the same as behind anything else that stands apart. -/
theorem linesOfAll_append {before : Kind} (apart : before.standsApart = true) (other : Kind)
    (apart' : other.standsApart = true) {classes : List Node}
    (areClasses : ∀ n ∈ classes, n.kind = .classKind) (depth : Nat) (rest : List Node) :
    linesOfAll depth (some before) (classes ++ rest) =
      linesOfAll depth (some before) classes ++ linesOfAll depth (some other) rest := by
  induction classes generalizing before with
  | nil =>
    rw [List.nil_append, linesOfAll_standsApart apart apart']
    rfl
  | cons node classes ih =>
    obtain ⟨isClass, areClasses⟩ := List.forall_mem_cons.mp areClasses
    have nodeApart : node.kind.standsApart = true := by rw [isClass]; rfl
    rw [List.cons_append, linesOfAll, linesOfAll, ih nodeApart areClasses]
    simp only [List.append_assoc]

/-- The lines of namespaces are those of what they show. -/
theorem linesOfAll_flatMap_shown {spaces : List Node} (areSpaces : ∀ n ∈ spaces, n.IsSpace)
    (depth : Nat) (previous : Option Kind) :
    linesOfAll depth previous spaces = linesOfAll depth previous (spaces.flatMap Node.shown) := by
  induction spaces generalizing previous with
  | nil => rfl
  | cons space rest ih =>
    obtain ⟨isSpace, areSpaces⟩ := List.forall_mem_cons.mp areSpaces
    rw [linesOfAll, isSpace.kind_eq, ih areSpaces, List.flatMap_cons]
    by_cases unnamed : space.name = ""
    · -- The first class is set apart like the namespace, and what follows the last one too.
      rw [Node.shown_of_unnamed unnamed]
      cases inside : space.children with
      | nil => exact absurd inside isSpace.inhabited
      | cons first others =>
        have classes := isSpace.classes
        rw [inside] at classes
        obtain ⟨isClass, areClasses⟩ := List.forall_mem_cons.mp classes
        have firstApart : first.kind.standsApart = true := by rw [isClass]; rfl
        have lines : linesOf depth space = linesOfAll depth none (first :: others) := by
          rw [isSpace.eq_mk, unnamed, inside, linesOf]
          rfl
        have apart : separation previous .namespaceKind = separation previous first.kind := by
          rw [isClass]
          rfl
        rw [lines, apart, List.cons_append, linesOfAll, linesOfAll,
          linesOfAll_append firstApart .namespaceKind rfl areClasses]
        simp only [separation, List.nil_append, List.append_assoc]
    · rw [Node.shown_of_named unnamed, List.singleton_append, linesOfAll, isSpace.kind_eq]

/-- What namespaces show can be read. -/
theorem isLegible_flatMap_shown {spaces : List Node} (areSpaces : ∀ n ∈ spaces, n.IsSpace) :
    ∀ n ∈ spaces.flatMap Node.shown, n.IsLegible := by
  intro n mem
  obtain ⟨space, isSpace, inside⟩ := List.mem_flatMap.mp mem
  unfold Node.shown at inside
  split at inside
  · exact (areSpaces space isSpace).legible n inside
  · next named =>
    rw [List.mem_singleton.mp inside]
    exact (areSpaces space isSpace).isLegible named

/-- Namespaces with names show themselves. -/
theorem flatMap_shown_of_named {spaces : List Node} (named : ∀ n ∈ spaces, n.name ≠ "") :
    spaces.flatMap Node.shown = spaces := by
  induction spaces with
  | nil => rfl
  | cons space rest ih =>
    obtain ⟨first, named⟩ := List.forall_mem_cons.mp named
    rw [List.flatMap_cons, Node.shown_of_named first, ih named]
    rfl

/-! ## The namespaces can be read -/

/-- A namespace shows something. -/
theorem Node.IsSpace.shown_ne_nil {node : Node} (space : node.IsSpace) : node.shown ≠ [] := by
  unfold Node.shown
  split
  · exact space.inhabited
  · exact List.cons_ne_nil _ _

/-- Behind the classes of the global namespace there are only namespaces with names, so no class
is shown next. -/
theorem not_class_behind_global {space : Node} {rest : List Node}
    (areSpaces : ∀ n ∈ rest, n.IsSpace) (distinct : ((space :: rest).map Node.name).Nodup)
    (unnamed : space.name = "") :
    ∀ n ∈ (rest.flatMap Node.shown).head?, (n.kind == .classKind) = false := by
  rw [List.map_cons, List.nodup_cons] at distinct
  have named : ∀ n ∈ rest, n.name ≠ "" := by
    intro n mem same
    exact distinct.1 (List.mem_map.mpr ⟨n, mem, same.trans unnamed.symm⟩)
  rw [flatMap_shown_of_named named]
  intro n first
  rw [(areSpaces n (List.mem_of_mem_head? first)).kind_eq]
  rfl

/-- The classes of the global namespace are not taken for a namespace with a name. -/
theorem shown_append_ne_of_named {m k : Node} (space : m.IsSpace) (space' : k.IsSpace)
    (unnamed : m.name = "") (named : k.name ≠ "") (x y : List Node) :
    m.shown ++ x ≠ k.shown ++ y := by
  intro same
  rw [Node.shown_of_unnamed unnamed, Node.shown_of_named named] at same
  cases inside : m.children with
  | nil => exact space.inhabited inside
  | cons first others =>
    rw [inside] at same
    obtain rfl : first = k := (List.cons.inj same).1
    have isClass := space.classes first (inside ▸ List.mem_cons_self)
    exact absurd (space'.kind_eq.symm.trans isClass) nofun

/-- Namespaces of different names are determined by what they show. -/
theorem flatMap_shown_inj {spaces others : List Node} (areSpaces : ∀ n ∈ spaces, n.IsSpace)
    (areSpaces' : ∀ n ∈ others, n.IsSpace) (distinct : (spaces.map Node.name).Nodup)
    (distinct' : (others.map Node.name).Nodup)
    (same : spaces.flatMap Node.shown = others.flatMap Node.shown) : spaces = others := by
  induction spaces generalizing others with
  | nil =>
    cases others with
    | nil => rfl
    | cons k others =>
      have space := areSpaces' k List.mem_cons_self
      exact absurd (List.append_eq_nil_iff.mp same.symm).1 space.shown_ne_nil
  | cons m spaces ih =>
    obtain ⟨space, areSpaces⟩ := List.forall_mem_cons.mp areSpaces
    cases others with
    | nil => exact absurd (List.append_eq_nil_iff.mp same).1 space.shown_ne_nil
    | cons k others =>
      obtain ⟨space', areSpaces'⟩ := List.forall_mem_cons.mp areSpaces'
      have later := ih areSpaces areSpaces' (List.nodup_cons.mp distinct).2
        (List.nodup_cons.mp distinct').2
      rw [List.flatMap_cons, List.flatMap_cons] at same
      by_cases unnamed : m.name = "" <;> by_cases unnamed' : k.name = ""
      · -- The classes of both global namespaces end where the next namespace begins.
        have ends := not_class_behind_global areSpaces distinct unnamed
        have ends' := not_class_behind_global areSpaces' distinct' unnamed'
        rw [Node.shown_of_unnamed unnamed, Node.shown_of_unnamed unnamed'] at same
        obtain ⟨classes, rests⟩ := append_inj_of_run
          (fun n mem => beq_iff_eq.mpr (space.classes n mem))
          (fun n mem => beq_iff_eq.mpr (space'.classes n mem)) ends ends' same
        rw [later rests, space.eq_mk, space'.eq_mk, unnamed, unnamed', classes]
      · exact absurd same (shown_append_ne_of_named space space' unnamed unnamed' _ _)
      · exact absurd same.symm (shown_append_ne_of_named space' space unnamed' unnamed _ _)
      · rw [Node.shown_of_named unnamed, Node.shown_of_named unnamed'] at same
        obtain ⟨heads, rests⟩ := List.cons.inj same
        rw [later rests, heads]

/-! ## Whole texts -/

/-- A unit that can be read: its namespaces can be read and have different names, and its usings are
those of every generated unit. -/
structure CompilationUnit.IsLegible (unit : CompilationUnit) : Prop where
  /-- The usings are always the same. -/
  usings : unit.usings = Synthesis.usings
  /-- The members are namespaces. -/
  spaces : ∀ n ∈ unit.members, n.IsSpace
  /-- No namespace comes twice. -/
  distinct : (unit.members.map Node.name).Nodup

/-- The lines behind the declarations end them. -/
theorem ends_footerLines : Ends footerLines := by
  have first : opening footerLines = some '#' := by decide +kernel
  intro c isFirst
  rw [first] at isFirst
  obtain rfl : '#' = c := Option.some.inj isFirst
  decide +kernel

/-- The lines of a unit that can be read are plain. -/
theorem CompilationUnit.IsLegible.isPlain_lines {unit : CompilationUnit}
    (legible : unit.IsLegible) : ∀ line ∈ unit.lines, line.IsPlain := by
  have header : ∀ line ∈ headerLines, line.IsPlain := by decide +kernel
  have usings : ∀ line ∈ usingLines Synthesis.usings, line.IsPlain := by decide +kernel
  have footer : ∀ line ∈ footerLines, line.IsPlain := by decide +kernel
  rw [lines, legible.usings, linesOfAll_flatMap_shown legible.spaces, List.forall_mem_append,
    List.forall_mem_append, List.forall_mem_append]
  have members := isPlain_linesOfAll (isLegible_flatMap_shown legible.spaces) 0 none
  exact ⟨⟨⟨header, usings⟩, members⟩, footer⟩

/-- Units that can be read are equal if their texts are. -/
theorem CompilationUnit.IsLegible.eq_of_render_eq {u v : CompilationUnit} (legibleU : u.IsLegible)
    (legibleV : v.IsLegible) (same : u.render = v.render) : u = v := by
  have texts : u.lines.flatMap Line.chars = v.lines.flatMap Line.chars :=
    String.ofList_injective same
  have lines : u.lines = v.lines :=
    flatMap_chars_inj legibleU.isPlain_lines legibleV.isPlain_lines texts
  rw [CompilationUnit.lines, CompilationUnit.lines, legibleU.usings, legibleV.usings,
    linesOfAll_flatMap_shown legibleU.spaces, linesOfAll_flatMap_shown legibleV.spaces] at lines
  simp only [List.append_assoc, List.append_cancel_left_eq] at lines
  -- What is left are the lines of the members, up to those behind all declarations.
  obtain ⟨shown, -⟩ := linesOfAll_append_inj (isLegible_flatMap_shown legibleU.spaces)
    (isLegible_flatMap_shown legibleV.spaces) ends_footerLines ends_footerLines lines
  have members : u.members = v.members := flatMap_shown_inj legibleU.spaces legibleV.spaces
    legibleU.distinct legibleV.distinct shown
  obtain ⟨usings, spaces⟩ := u
  obtain ⟨usings', spaces'⟩ := v
  obtain rfl : spaces = spaces' := members
  rw [show usings = usings' from legibleU.usings.trans legibleV.usings.symm]

end TypedMvc.Declaration
