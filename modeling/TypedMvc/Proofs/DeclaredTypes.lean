import Mathlib.Data.List.Basic
import TypedMvc.Symbols.Extract

/-!
# What a syntax tree declares

Which types a syntax tree declares, and in which namespaces, said by rules that look at one node and
what stands in front of it among its siblings. A declaration is known by its place in the tree
(`Site`), so no two are taken for one. `FileContext.DeclaredBy` is about the types, each with those
nested in it, and `FileContext.DeclaredIn` about all that is reached through namespaces, lists of
declarations and error nodes. A namespace for the rest of the file holds for what stands behind it
among its siblings (`FileContext.scopeBehind`), but a namespace behind it is not inside it.
-/

namespace TypedMvc.CSharp.Node

/-! ## Places in a tree -/

/-- The node at a place, which is given by the indices of the children on the way down to it. -/
def at? (node : Node) : List ℕ → Option Node
  | [] => some node
  | i :: rest => node.children[i]?.bind fun child => child.at? rest

/-- A child is at its place among the children, and so is what is in it. -/
theorem at?_cons {node child : Node} {front behind : List Node} (rest : List ℕ)
    (split : node.children = front ++ child :: behind) :
    node.at? (front.length :: rest) = child.at? rest := by
  rw [at?, split, List.getElem?_append_right (Nat.le_refl _), Nat.sub_self]
  rfl

/-- What is true of a node if it is true of its children is true of all nodes. -/
theorem children_induction {p : Node → Prop}
    (step : ∀ node, (∀ child ∈ node.children, p child) → p node) (node : Node) : p node := by
  refine step node fun child mem => ?_
  have smaller : sizeOf child < sizeOf node := by
    cases node with
    | mk label role span supplied children =>
      have inside : sizeOf child < sizeOf children := List.sizeOf_lt_of_mem mem
      rw [mk.sizeOf_spec]
      omega
  exact children_induction step child
termination_by sizeOf node

end TypedMvc.CSharp.Node

namespace TypedMvc.Symbols

open CSharp

/-- A declaration of a type in a syntax tree. -/
structure Site where
  /-- The place of the declaration. -/
  place : List ℕ
  /-- The node that declares the type. -/
  node : Node
  /-- What kind of type it is. -/
  kind : TypeKind
  /-- The name of the type. -/
  name : String
  /-- The namespace it is declared in. -/
  namespaceName : Option String
  /-- The type it is nested in. -/
  containingType : Option String

/-- The declaration as seen from the parent of the node in which it has its place. -/
def Site.below (i : ℕ) (site : Site) : Site := { site with place := i :: site.place }

namespace FileContext

variable {context : FileContext} {outer scope container : Option String}

/-! ## The rules -/

/-- The namespaces for the rest of the file among some siblings. They stand side by side in the
namespace of the parent. -/
def fileNamespaces (context : FileContext) (outer : Option String) (siblings : List Node) :
    List String :=
  (siblings.filter fun node => node.label == .fileNamespace).filterMap (context.namespaceOf? outer)

/-- The namespace that holds behind some siblings: the last one for the rest of the file, or else
the one that holds in front of them. -/
def scopeBehind (context : FileContext) (outer scope : Option String) (siblings : List Node) :
    Option String :=
  (context.fileNamespaces outer siblings).getLast?.or scope

/-- What a node declares that stands for a type: the type itself, and the types nested in it, which
are directly in its body. A type without a name is passed over. -/
inductive DeclaredBy (context : FileContext) (scope : Option String) :
    Option String → Node → Site → Prop where
  /-- A type under its name. -/
  | itself {container : Option String} {node nameNode : Node} {kind : TypeKind}
      (isType : node.label = .typeDeclaration kind) (named : node.child? .name = some nameNode) :
      DeclaredBy context scope container node
        ⟨[], node, kind, context.textOf nameNode, scope, container⟩
  /-- What a member of the first body of a type declares. -/
  | member {container : Option String} {node nameNode body child : Node} {kind : TypeKind}
      {parts others before after : List Node} {site : Site}
      (isType : node.label = .typeDeclaration kind) (named : node.child? .name = some nameNode)
      (split : node.children = parts ++ body :: others) (isBody : body.role = some .body)
      (first : ∀ part ∈ parts, part.role ≠ some .body)
      (inBody : body.children = before ++ child :: after)
      (declared : DeclaredBy context scope (some (context.textOf nameNode)) child site) :
      DeclaredBy context scope container node
        ((site.below before.length).below parts.length)

/-- What is declared in a node, the children of which are in a namespace as long as none for the
rest of the file stands among them. A namespace without a name is passed over. -/
inductive DeclaredIn (context : FileContext) : Option String → Node → Site → Prop where
  /-- What a type among the children declares, in the namespace that holds in front of it. -/
  | byType {outer : Option String} {parent child : Node} {front behind : List Node} {site : Site}
      (split : parent.children = front ++ child :: behind)
      (declared : DeclaredBy context (context.scopeBehind outer outer front) none child site) :
      DeclaredIn context outer parent (site.below front.length)
  /-- What is declared in a namespace among the children. It is inside the namespace of the parent,
  also behind one for the rest of the file. -/
  | inNamespace {outer : Option String} {parent child : Node} {front behind : List Node}
      {site : Site} {inner : String} (split : parent.children = front ++ child :: behind)
      (isNamespace : child.label = .blockNamespace ∨ child.label = .fileNamespace)
      (named : context.namespaceOf? outer child = some inner)
      (declared : DeclaredIn context (some inner) child site) :
      DeclaredIn context outer parent (site.below front.length)
  /-- What is declared in a list of declarations or in an error node among the children, in the
  namespace that holds in front of it. -/
  | inPassage {outer : Option String} {parent child : Node} {front behind : List Node}
      {site : Site} (split : parent.children = front ++ child :: behind)
      (isPassage : child.label = .declarationList ∨ child.label = .error)
      (declared : DeclaredIn context (context.scopeBehind outer outer front) child site) :
      DeclaredIn context outer parent (site.below front.length)

/-- Only a node that stands for a type declares what is at its own place. -/
theorem DeclaredBy.exists_kind {node : Node} {site : Site}
    (declared : DeclaredBy context scope container node site) :
    ∃ kind, node.label = .typeDeclaration kind := by
  cases declared with
  | itself isType _ => exact ⟨_, isType⟩
  | member isType _ _ _ _ _ _ => exact ⟨_, isType⟩

/-- What a type declares is at its place below the type. -/
theorem DeclaredBy.at?_eq {node : Node} {site : Site}
    (declared : DeclaredBy context scope container node site) :
    node.at? site.place = some site.node := by
  induction declared with
  | itself isType named => rfl
  | member isType named split isBody first inBody declared ih =>
    exact (Node.at?_cons _ split).trans ((Node.at?_cons _ inBody).trans ih)

/-- What is declared in a node is at its place below the node. -/
theorem DeclaredIn.at?_eq {node : Node} {site : Site}
    (declared : DeclaredIn context outer node site) : node.at? site.place = some site.node := by
  induction declared with
  | byType split declared => exact (Node.at?_cons _ split).trans declared.at?_eq
  | inNamespace split isNamespace named declared ih => exact (Node.at?_cons _ split).trans ih
  | inPassage split isPassage declared ih => exact (Node.at?_cons _ split).trans ih

/-- A namespace has its own name alone if it is inside none or in one with the empty name, and
otherwise the two names with a dot between them. -/
theorem namespaceOf?_eq_some_iff {node : Node} {inner : String} :
    context.namespaceOf? outer node = some inner ↔
      ∃ nameNode, node.child? .name = some nameNode ∧
        ((outer = none ∨ outer = some "") ∧ inner = Unicode.trim (context.textOf nameNode) ∨
          ∃ around, outer = some around ∧ around ≠ "" ∧
            inner = around ++ "." ++ Unicode.trim (context.textOf nameNode)) := by
  rw [namespaceOf?, Option.map_eq_some_iff]
  refine exists_congr fun nameNode => and_congr_right fun _ => ?_
  rw [eq_comm]
  cases outer with
  | none => simp [joinNamespace]
  | some around => by_cases empty : around = "" <;> simp [joinNamespace, empty]

end FileContext

end TypedMvc.Symbols
