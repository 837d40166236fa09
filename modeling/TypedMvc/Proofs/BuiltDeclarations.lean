import TypedMvc.Proofs.GeneratedClasses
import TypedMvc.Proofs.LooseDeclarations
import TypedMvc.Proofs.Occurrences

/-!
# How declarations are built

A declaration is made by a constructor and extended by further calls, and what is put inside it was
built in the same way before. A `Build` is the tree of these calls. The calls for one node may come
in any order, so what they add is gathered from the outside in (`Build.addedModifiers`,
`Build.addedAttributes`, `Build.addedChildren`), and the calls for the nodes inside it are its parts
(`Build.parts`). Each node of the finished tree is made by one of the parts (`walk_node`), and has
what its part added, in the order of the calls. The same calls can be made for loose nodes
(`Build.loose`), where a call could leave something out: none does, and so nothing has to stand in
for anything when a tree is written. `Build.built_inOrder` puts this together.
-/

namespace TypedMvc.Declaration

/-! ## Modifiers -/

/-- Adding modifiers keeps them listed once each, in the order in which they were added first. -/
theorem listsOccurrences_addModifiers {before known : List Modifier}
    (lists : ListsOccurrences 0 before known) (more : List Modifier) :
    ListsOccurrences 0 (before ++ more) (Node.addModifiers known more) := by
  induction more generalizing before known with
  | nil => simpa [Node.addModifiers] using lists
  | cons modifier rest ih =>
    have step := lists.concat modifier
    have isKnown : modifier ∈ known ↔ ¬ before.count modifier = 0 :=
      (lists.mem_iff modifier).trans Nat.pos_iff_ne_zero
    rw [Node.addModifiers, List.append_cons before]
    by_cases isFirst : before.count modifier = 0
    · rw [if_pos isFirst] at step
      rw [if_neg fun mem => isKnown.mp mem isFirst]
      exact ih step
    · rw [if_neg isFirst] at step
      rw [if_pos (isKnown.mpr isFirst)]
      exact ih step

/-! ## Calls -/

/-- A way to build a declaration: a constructor, or one more call on what was built before. What is
put inside it was built on its own. -/
inductive Build where
  /-- A namespace. -/
  | ofNamespace (name : String)
  /-- A class. -/
  | ofClass (name : String)
  /-- A field. -/
  | ofField (name type : String) (value : Expr)
  /-- A field that holds a text. -/
  | ofText (name value : String)
  /-- A property. -/
  | ofProperty (name type : String) (getter : Expr)
  /-- More modifiers. -/
  | withModifiers (build : Build) (more : List Modifier)
  /-- More attributes. -/
  | withAttributes (build : Build) (more : List Attribute)
  /-- One more declaration inside. -/
  | withChild (build child : Build)
  /-- More declarations inside. -/
  | withChildren (build : Build) (more : List Build)

namespace Build

mutual
/-- The node that is built. -/
def node : Build → Node
  | ofNamespace name => .ofNamespace name
  | ofClass name => .ofClass name
  | ofField name type value => .ofField name type value
  | ofText name value => .ofText name value
  | ofProperty name type getter => .ofProperty name type getter
  | withModifiers build more => build.node.withModifiers more
  | withAttributes build more => build.node.withAttributes more
  | withChild build child => build.node.withChild child.node
  | withChildren build more => build.node.withChildren (nodes more)

/-- The nodes that are built one after another. -/
def nodes : List Build → List Node
  | [] => []
  | build :: rest => build.node :: nodes rest
end

mutual
/-- The loose node that is built by the same calls. -/
def loose : Build → LooseNode
  | ofNamespace name => .ofNamespace name
  | ofClass name => .ofClass name
  | ofField name type value => .ofField name type value
  | ofText name value => .ofText name value
  | ofProperty name type getter => .ofProperty name type getter
  | withModifiers build more => build.loose.withModifiers more
  | withAttributes build more => build.loose.withAttributes more
  | withChild build child => build.loose.withChild child.loose
  | withChildren build more => build.loose.withChildren (looseAll more)

/-- The loose nodes that are built one after another. -/
def looseAll : List Build → List LooseNode
  | [] => []
  | build :: rest => build.loose :: looseAll rest
end

/-- The modifiers that were added to the node, in the order of the calls. -/
def addedModifiers : Build → List Modifier
  | withModifiers build more => build.addedModifiers ++ more
  | withAttributes build _ | withChild build _ | withChildren build _ => build.addedModifiers
  | _ => []

/-- The attributes that were added to the node, in the order of the calls. -/
def addedAttributes : Build → List Attribute
  | withAttributes build more => build.addedAttributes ++ more
  | withModifiers build _ | withChild build _ | withChildren build _ => build.addedAttributes
  | _ => []

/-- What was put inside the node, in the order of the calls. -/
def addedChildren : Build → List Build
  | withChild build child => build.addedChildren ++ [child]
  | withChildren build more => build.addedChildren ++ more
  | withModifiers build _ | withAttributes build _ => build.addedChildren
  | _ => []

mutual
/-- The calls for the nodes inside a node, those for each node in front of those for what is inside
it. -/
def inside : Build → List Build
  | withChild build child => build.inside ++ child :: child.inside
  | withChildren build more => build.inside ++ insideAll more
  | withModifiers build _ | withAttributes build _ => build.inside
  | _ => []

/-- The calls for nodes one after another and for what is inside them. -/
def insideAll : List Build → List Build
  | [] => []
  | build :: rest => build :: build.inside ++ insideAll rest
end

/-- The calls for a node and for the nodes inside it. -/
def parts (build : Build) : List Build := build :: build.inside

/-- Nodes are built one by one. -/
theorem nodes_eq_map (builds : List Build) : nodes builds = builds.map node := by
  induction builds with
  | nil => rw [nodes, List.map_nil]
  | cons build rest ih => rw [nodes, List.map_cons, ih]

/-! ## What a node has -/

/-- A node has the modifiers that were added to it, each once, in the order in which they were added
first. -/
theorem listsOccurrences_modifiers : (build : Build) →
    ListsOccurrences 0 build.addedModifiers build.node.modifiers
  | ofNamespace _ => listsOccurrences_nil 0
  | ofClass _ => listsOccurrences_nil 0
  | ofField _ _ _ => listsOccurrences_nil 0
  | ofText _ _ => listsOccurrences_nil 0
  | ofProperty _ _ _ => listsOccurrences_nil 0
  | withModifiers build more => by
    rw [addedModifiers, node]
    exact listsOccurrences_addModifiers build.listsOccurrences_modifiers more
  | withAttributes build _ => by
    rw [addedModifiers, node]
    exact build.listsOccurrences_modifiers
  | withChild build _ => by
    rw [addedModifiers, node]
    exact build.listsOccurrences_modifiers
  | withChildren build _ => by
    rw [addedModifiers, node]
    exact build.listsOccurrences_modifiers

/-- A node has the attributes that were added to it. -/
theorem attributes_node : (build : Build) → build.node.attributes = build.addedAttributes
  | ofNamespace _ | ofClass _ | ofField _ _ _ | ofText _ _ | ofProperty _ _ _ => rfl
  | withAttributes build more => by
    rw [addedAttributes, node, ← build.attributes_node]
    rfl
  | withModifiers build _ | withChild build _ | withChildren build _ => by
    rw [addedAttributes, node, ← build.attributes_node]
    rfl

/-- A node has inside it what was put there. -/
theorem children_node : (build : Build) → build.node.children = build.addedChildren.map node
  | ofNamespace _ | ofClass _ | ofField _ _ _ | ofText _ _ | ofProperty _ _ _ => rfl
  | withChild build child => by
    rw [addedChildren, node, List.map_append, ← build.children_node]
    rfl
  | withChildren build more => by
    rw [addedChildren, node, nodes_eq_map, List.map_append, ← build.children_node]
    rfl
  | withModifiers build _ | withAttributes build _ => by
    rw [addedChildren, node, ← build.children_node]
    rfl

/-! ## What a tree has -/

mutual
/-- The nodes inside a node are made by the calls for them. -/
theorem flatMap_walk_children : (build : Build) →
    build.node.children.flatMap Node.walk = build.inside.map node
  | ofNamespace _ | ofClass _ | ofField _ _ _ | ofText _ _ | ofProperty _ _ _ => rfl
  | withChild build child => by
    have children : (withChild build child).node.children =
        build.node.children ++ [child.node] := by rw [node]; rfl
    rw [children, List.flatMap_append, List.flatMap_singleton, Node.walk_eq,
      build.flatMap_walk_children, child.flatMap_walk_children, inside, List.map_append,
      List.map_cons]
  | withChildren build more => by
    have children : (withChildren build more).node.children =
        build.node.children ++ nodes more := by rw [node]; rfl
    rw [children, List.flatMap_append, build.flatMap_walk_children, flatMap_walk_nodes more,
      inside, List.map_append]
  | withModifiers build _ | withAttributes build _ => by
    rw [inside, ← build.flatMap_walk_children, node]
    rfl

/-- Nodes one after another and the nodes inside them are made by the calls for them. -/
theorem flatMap_walk_nodes : (builds : List Build) →
    (nodes builds).flatMap Node.walk = (insideAll builds).map node
  | [] => rfl
  | build :: rest => by
    rw [nodes, List.flatMap_cons, Node.walk_eq, build.flatMap_walk_children,
      flatMap_walk_nodes rest, insideAll, List.map_append, List.map_cons]
end

/-- A node and the nodes inside it are made by the parts. -/
theorem walk_node (build : Build) : build.node.walk = build.parts.map node := by
  rw [Node.walk_eq, build.flatMap_walk_children, parts, List.map_cons]

mutual
/-- The calls make of loose nodes what they make of nodes. -/
theorem loose_eq : (build : Build) → build.loose = build.node.loose
  | ofNamespace _ | ofClass _ | ofField _ _ _ | ofText _ _ | ofProperty _ _ _ => rfl
  | withModifiers build more => by
    rw [loose, node, Node.loose_withModifiers, build.loose_eq]
  | withAttributes build more => by
    rw [loose, node, Node.loose_withAttributes, build.loose_eq]
  | withChild build child => by
    rw [loose, node, Node.withChild, Node.loose_withChildren, build.loose_eq, child.loose_eq]
    rfl
  | withChildren build more => by
    rw [loose, node, Node.loose_withChildren, build.loose_eq, looseAll_eq more]

/-- The calls make of loose nodes one after another what they make of nodes. -/
theorem looseAll_eq : (builds : List Build) → looseAll builds = (nodes builds).map Node.loose
  | [] => rfl
  | build :: rest => by rw [looseAll, nodes, List.map_cons, build.loose_eq, looseAll_eq rest]
end

/-- Each node of a tree has the modifiers that were added to it, each once and in the order in which
they were added first, and the attributes and the nodes inside it in the order in which they were
added. A field or a property of the tree has a type and a value, whichever calls made it, and no
other node has either. So the tree is written as if nothing could be missing: what would stand in
for a missing part makes no difference. -/
theorem built_inOrder (build : Build) :
    build.node.walk = build.parts.map node ∧
    (∀ part ∈ build.parts,
      part.node.modifiers.Nodup ∧
      ListsOccurrences 0 part.addedModifiers part.node.modifiers ∧
      part.node.attributes = part.addedAttributes ∧
      part.node.children = part.addedChildren.map node) ∧
    build.loose = build.node.loose ∧
    (∀ inner ∈ build.loose.walk, inner.IsComplete) ∧
    ∀ standIns depth, build.loose.lines standIns depth = linesOf depth build.node := by
  refine ⟨build.walk_node, fun part _ => ?_, build.loose_eq, fun inner mem => ?_,
    fun standIns depth => ?_⟩
  · exact ⟨part.listsOccurrences_modifiers.nodup, part.listsOccurrences_modifiers,
      part.attributes_node, part.children_node⟩
  · rw [loose_eq, Node.walk_loose] at mem
    obtain ⟨node, -, rfl⟩ := List.mem_map.mp mem
    exact node.isComplete_loose
  · rw [loose_eq]
    exact Node.linesOf_loose standIns build.node depth

/-- A modifier that is added again stays where it was added first. -/
example :
    (((ofClass "MVC").withModifiers [.publicModifier, .partialModifier]).withModifiers
      [.staticModifier, .publicModifier]).node.modifiers =
        [.publicModifier, .partialModifier, .staticModifier] := by
  decide +kernel

end Build

end TypedMvc.Declaration
