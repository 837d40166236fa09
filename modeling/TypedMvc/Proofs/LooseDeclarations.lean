import TypedMvc.Declaration.Render

/-!
# Declarations that may lack their type and value

A `Node` has a type and a value exactly if it is a field or a property, as its content says both. A
`LooseNode` has its type and its value apart from its kind, and either of them may be missing. It is
made and extended by the same functions as a node, and written in the same way, except that
something has to stand in for what is missing (`StandIns`). Every node can be seen as a loose one
(`Node.loose`), which is complete: `linesOf_loose` says that nothing ever stands in for a part of
it.
-/

namespace TypedMvc.Declaration

/-- A declaration whose type and value may be missing, whatever its kind. -/
inductive LooseNode where
  /-- A declaration from its kind, its name, its type, its modifiers and attributes in order, its
  value, and the declarations inside it. -/
  | mk (kind : Kind) (name : String) (type? : Option String) (modifiers : List Modifier)
    (attributes : List Attribute) (value? : Option Expr) (children : List LooseNode)
  deriving Repr, Inhabited

namespace LooseNode

/-! ## Making and extending loose nodes -/

/-- A declaration that has nothing but a kind and a name. -/
def empty (kind : Kind) (name : String) : LooseNode := .mk kind name none [] [] none []

/-- A namespace. -/
def ofNamespace (name : String) : LooseNode := empty .namespaceKind name

/-- A class. -/
def ofClass (name : String) : LooseNode := empty .classKind name

/-- A field. -/
def ofField (name type : String) (value : Expr) : LooseNode :=
  .mk .fieldKind name (some type) [] [] (some value) []

/-- A field that holds a text. -/
def ofText (name value : String) : LooseNode := ofField name "string" (.text value)

/-- A property. -/
def ofProperty (name type : String) (getter : Expr) : LooseNode :=
  .mk .propertyKind name (some type) [] [] (some getter) []

/-- The kind of declaration. -/
def kind : LooseNode → Kind
  | .mk kind _ _ _ _ _ _ => kind

/-- The type, if there is one. -/
def type? : LooseNode → Option String
  | .mk _ _ type? _ _ _ _ => type?

/-- The value, if there is one. -/
def value? : LooseNode → Option Expr
  | .mk _ _ _ _ _ value? _ => value?

/-- The node with more modifiers; one that is there already is not added again. -/
def withModifiers : LooseNode → List Modifier → LooseNode
  | .mk kind name type? modifiers attributes value? children, more =>
    .mk kind name type? (Node.addModifiers modifiers more) attributes value? children

/-- The node with more attributes. -/
def withAttributes : LooseNode → List Attribute → LooseNode
  | .mk kind name type? modifiers attributes value? children, more =>
    .mk kind name type? modifiers (attributes ++ more) value? children

/-- The node with more declarations inside it. -/
def withChildren : LooseNode → List LooseNode → LooseNode
  | .mk kind name type? modifiers attributes value? children, more =>
    .mk kind name type? modifiers attributes value? (children ++ more)

/-- The node with one more declaration inside it. -/
def withChild (node child : LooseNode) : LooseNode := node.withChildren [child]

mutual
/-- The node and everything inside it, each node in front of what is inside it. -/
def walk : LooseNode → List LooseNode
  | .mk kind name type? modifiers attributes value? children =>
    .mk kind name type? modifiers attributes value? children :: walkAll children

/-- The nodes of a list and everything inside them. -/
def walkAll : List LooseNode → List LooseNode
  | [] => []
  | node :: rest => walk node ++ walkAll rest
end

/-- A field or a property has both a type and a value, and a namespace or a class has neither. -/
def IsComplete (node : LooseNode) : Prop :=
  match node.kind with
  | .fieldKind | .propertyKind => node.type?.isSome ∧ node.value?.isSome
  | .namespaceKind | .classKind => node.type? = none ∧ node.value? = none

end LooseNode

/-! ## Writing loose nodes -/

/-- What is written in the place of parts that are missing. -/
structure StandIns where
  /-- The type of a field or a property without one. -/
  type : String := "object"
  /-- What a property without a value returns. -/
  getter : String := "default"
  /-- What is written behind the name of a field without a value. -/
  initializer : String := ""

namespace LooseNode

mutual
/-- The lines of a declaration. -/
def lines (standIns : StandIns) (depth : Nat) : LooseNode → List Line
  | .mk kind name type? modifiers attributes value? children =>
    attributeLines depth attributes ++
      match kind with
      | .namespaceKind =>
        if name = "" then linesAll standIns depth none children
        else
          ⟨depth, "namespace " ++ name⟩ :: ⟨depth, "\x7b"⟩ ::
            (linesAll standIns (depth + 1) none children ++ [⟨depth, "\x7d"⟩])
      | .classKind =>
        ⟨depth, renderModifiers modifiers ++ "class " ++ name⟩ :: ⟨depth, "\x7b"⟩ ::
          (linesAll standIns (depth + 1) none children ++ [⟨depth, "\x7d"⟩])
      | .fieldKind =>
        let initializer := value?.elim standIns.initializer fun value => " = " ++ value.render
        [⟨depth, renderModifiers modifiers ++ type?.getD standIns.type ++ " " ++ name ++
          initializer ++ ";"⟩]
      | .propertyKind =>
        let getter := value?.elim standIns.getter Expr.render
        [⟨depth, renderModifiers modifiers ++ type?.getD standIns.type ++ " " ++ name ++
          " \x7b get \x7b return " ++ getter ++ "; \x7d \x7d"⟩]

/-- The lines of declarations one after another, behind one of a certain kind. -/
def linesAll (standIns : StandIns) (depth : Nat) (previous : Option Kind) :
    List LooseNode → List Line
  | [] => []
  | node :: rest =>
    separation previous node.kind ++ lines standIns depth node ++
      linesAll standIns depth (some node.kind) rest
end

/-- What is missing is written as what stands in for it. -/
example : (empty .fieldKind "Index").lines {} 0 = [⟨0, "object Index;"⟩] ∧
    (empty .propertyKind "Index").lines {} 0 =
      [⟨0, "object Index \x7b get \x7b return default; \x7d \x7d"⟩] := by
  decide +kernel

end LooseNode

/-! ## Nodes seen as loose ones -/

namespace Node

mutual
/-- The node as one that might lack its type and its value. -/
def loose : Node → LooseNode
  | .mk content name modifiers attributes children =>
    let node := Node.mk content name modifiers attributes children
    .mk node.kind name node.typeName? modifiers attributes node.value? (looseAll children)

/-- The nodes of a list as ones that might lack their types and their values. -/
def looseAll : List Node → List LooseNode
  | [] => []
  | node :: rest => loose node :: looseAll rest
end

/-- The nodes of a list are seen as loose ones one by one. -/
theorem looseAll_eq_map (nodes : List Node) : looseAll nodes = nodes.map loose := by
  induction nodes with
  | nil => rw [looseAll, List.map_nil]
  | cons node rest ih => rw [looseAll, List.map_cons, ih]

/-- A node is of the same kind when it is seen as a loose one. -/
theorem kind_loose (node : Node) : node.loose.kind = node.kind := by
  cases node
  rw [loose]
  rfl

/-- A node is complete: its content says of which kind it is, and with it the type and the value. -/
theorem isComplete_loose (node : Node) : node.loose.IsComplete := by
  obtain ⟨content, name, modifiers, attributes, children⟩ := node
  rw [loose]
  cases content with
  | ofNamespace => exact ⟨rfl, rfl⟩
  | ofClass => exact ⟨rfl, rfl⟩
  | ofField type value => exact ⟨rfl, rfl⟩
  | ofProperty type getter => exact ⟨rfl, rfl⟩

/-- A loose node gets the modifiers that the node gets. -/
theorem loose_withModifiers (node : Node) (more : List Modifier) :
    (node.withModifiers more).loose = node.loose.withModifiers more := by
  cases node
  simp only [withModifiers, loose]
  rfl

/-- A loose node gets the attributes that the node gets. -/
theorem loose_withAttributes (node : Node) (more : List Attribute) :
    (node.withAttributes more).loose = node.loose.withAttributes more := by
  cases node
  simp only [withAttributes, loose]
  rfl

/-- A loose node gets the children that the node gets. -/
theorem loose_withChildren (node : Node) (more : List Node) :
    (node.withChildren more).loose = node.loose.withChildren (more.map loose) := by
  cases node
  simp only [withChildren, loose, looseAll_eq_map, children, List.map_append]
  rfl

mutual
/-- What is inside a node is inside the loose one. -/
theorem walk_loose : (node : Node) → node.loose.walk = node.walk.map loose
  | .mk content name modifiers attributes children => by
    rw [loose, LooseNode.walk, walkAll_looseAll children, walk, List.map_cons, loose]

/-- What is inside nodes is inside the loose ones. -/
theorem walkAll_looseAll : (nodes : List Node) →
    LooseNode.walkAll (looseAll nodes) = (walkAll nodes).map loose
  | [] => by rw [looseAll, LooseNode.walkAll, walkAll, List.map_nil]
  | node :: rest => by
    rw [looseAll, LooseNode.walkAll, walk_loose node, walkAll_looseAll rest, walkAll,
      List.map_append]
end

mutual
/-- Whatever would stand in for missing parts, a node has the same lines, as no part is missing. -/
theorem linesOf_loose (standIns : StandIns) : (node : Node) → (depth : Nat) →
    node.loose.lines standIns depth = linesOf depth node
  | .mk content name modifiers attributes children, depth => by
    have inside := linesOfAll_looseAll standIns children
    rw [loose]
    cases content with
    | ofNamespace =>
      show LooseNode.lines standIns depth
        (.mk .namespaceKind name none modifiers attributes none (looseAll children)) = _
      simp only [LooseNode.lines, linesOf, inside]
    | ofClass =>
      show LooseNode.lines standIns depth
        (.mk .classKind name none modifiers attributes none (looseAll children)) = _
      simp only [LooseNode.lines, linesOf, inside]
    | ofField type value =>
      show LooseNode.lines standIns depth
        (.mk .fieldKind name (some type) modifiers attributes (some value) (looseAll children)) = _
      simp only [LooseNode.lines, linesOf, Option.elim_some, Option.getD_some, String.append_assoc]
    | ofProperty type getter =>
      show LooseNode.lines standIns depth (.mk .propertyKind name (some type) modifiers attributes
        (some getter) (looseAll children)) = _
      simp only [LooseNode.lines, linesOf, Option.elim_some, Option.getD_some]

/-- Whatever would stand in for missing parts, nodes one after another have the same lines. -/
theorem linesOfAll_looseAll (standIns : StandIns) : (nodes : List Node) → (depth : Nat) →
    (previous : Option Kind) →
      LooseNode.linesAll standIns depth previous (looseAll nodes) =
        linesOfAll depth previous nodes
  | [], depth, previous => by rw [looseAll, LooseNode.linesAll, linesOfAll]
  | node :: rest, depth, previous => by
    rw [looseAll, LooseNode.linesAll, kind_loose, linesOf_loose standIns node,
      linesOfAll_looseAll standIns rest, linesOfAll]
end

end Node

end TypedMvc.Declaration
