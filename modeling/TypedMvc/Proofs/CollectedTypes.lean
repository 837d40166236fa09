import Mathlib.Data.List.Forall2
import Mathlib.Data.List.Lex
import TypedMvc.Proofs.DeclaredTypes

/-!
# Collected types in the order of the text

The types of a file are collected by several recursions in one, with a namespace that changes on the
way. `typesIn_preorder` says that they collect what the rules declare: one type for each place, in
the order of the places, in which a container comes before what is nested in it. `Lists` says this
of a part of the tree, and it is carried through the recursions from what a child declares
(`Lists.below`) and what its siblings declare behind it (`Lists.siblings`).
-/

namespace TypedMvc.Symbols

open CSharp

namespace FileContext

variable {context : FileContext} {outer scope container : Option String}

/-! ## Lists of what is declared -/

/-- The type that is collected for a declaration. -/
def symbolAt (context : FileContext) (site : Site) : TypeSymbol :=
  context.symbolOf site.node site.kind site.name site.namespaceName site.containingType

/-- Some types are those declared at certain places, one for each place and in their order. -/
def Lists (context : FileContext) (types : List TypeSymbol) (declared : Site → Prop) : Prop :=
  ∃ sites : List Site, (sites.map Site.place).Pairwise (· < ·) ∧
    (∀ site, site ∈ sites ↔ declared site) ∧ types = sites.map context.symbolAt

namespace Lists

variable {types others : List TypeSymbol} {declared declaredToo : Site → Prop}

/-- Where nothing is declared there are no types. -/
theorem nil (none : ∀ site, ¬ declared site) : context.Lists [] declared :=
  ⟨[], List.Pairwise.nil, fun site => iff_of_false List.not_mem_nil (none site), rfl⟩

/-- It does not matter how it is said what is declared. -/
theorem congr (lists : context.Lists types declared)
    (same : ∀ site, declared site ↔ declaredToo site) : context.Lists types declaredToo := by
  obtain ⟨sites, ordered, covers, types_eq⟩ := lists
  exact ⟨sites, ordered, fun site => (covers site).trans (same site), types_eq⟩

/-- What is declared in a child, as seen from the parent. -/
theorem below (lists : context.Lists types declared) (i : ℕ) :
    context.Lists types fun site => ∃ inside, declared inside ∧ site = inside.below i := by
  obtain ⟨sites, ordered, covers, types_eq⟩ := lists
  refine ⟨sites.map (Site.below i), ?_, fun site => ?_, ?_⟩
  · rw [List.map_map, List.pairwise_map]
    rw [List.pairwise_map] at ordered
    exact ordered.imp fun before => List.cons_lt_cons_iff.mpr (Or.inr ⟨rfl, before⟩)
  · simp only [List.mem_map, covers, eq_comm]
  · rw [types_eq, List.map_map]
    rfl

/-- What is declared at some places, and then at others behind them. -/
theorem append (lists : context.Lists types declared)
    (listsToo : context.Lists others declaredToo)
    (behind : ∀ site other, declared site → declaredToo other → site.place < other.place) :
    context.Lists (types ++ others) fun site => declared site ∨ declaredToo site := by
  obtain ⟨sites, ordered, covers, rfl⟩ := lists
  obtain ⟨more, orderedToo, coversToo, rfl⟩ := listsToo
  refine ⟨sites ++ more, ?_, fun site => ?_, List.map_append.symm⟩
  · rw [List.map_append, List.pairwise_append]
    refine ⟨ordered, orderedToo, ?_⟩
    simp only [List.forall_mem_map]
    exact fun site mem other memToo =>
      behind site other ((covers site).mp mem) ((coversToo other).mp memToo)
  · rw [List.mem_append, covers, coversToo]

end Lists

/-- What is declared somewhere among siblings, the first of which has the index `k`, by a rule for
one of them and those in front of it. -/
def Among (k : ℕ) (siblings : List Node) (rule : List Node → Node → Site → Prop) (site : Site) :
    Prop :=
  ∃ front child behind inside, siblings = front ++ child :: behind ∧ rule front child inside ∧
    site = inside.below (k + front.length)

/-- Nothing is declared where there are no nodes. -/
theorem not_among_nil {k : ℕ} {rule : List Node → Node → Site → Prop} {site : Site} :
    ¬ Among k [] rule site := by
  rintro ⟨front, child, behind, inside, split, -⟩
  exact List.append_ne_nil_of_right_ne_nil front (List.cons_ne_nil child behind) split.symm

/-- What is declared among siblings is declared by the first one or among the others. -/
theorem among_cons {k : ℕ} {node : Node} {rest : List Node}
    {rule : List Node → Node → Site → Prop} {site : Site} :
    Among k (node :: rest) rule site ↔
      (∃ inside, rule [] node inside ∧ site = inside.below k) ∨
        Among (k + 1) rest (fun front => rule (node :: front)) site := by
  constructor
  · rintro ⟨front, child, behind, inside, split, held, rfl⟩
    cases front with
    | nil =>
      obtain ⟨rfl, rfl⟩ := List.cons.inj split
      exact Or.inl ⟨inside, held, rfl⟩
    | cons first front =>
      obtain ⟨rfl, rfl⟩ := List.cons.inj split
      refine Or.inr ⟨front, child, behind, inside, rfl, held, ?_⟩
      rw [List.length_cons, Nat.add_right_comm, Nat.add_assoc]
  · rintro (⟨inside, held, rfl⟩ | ⟨front, child, behind, inside, rfl, held, rfl⟩)
    · exact ⟨[], node, rest, inside, rfl, held, rfl⟩
    · refine ⟨node :: front, child, behind, inside, rfl, held, ?_⟩
      rw [List.length_cons, Nat.add_right_comm, Nat.add_assoc]

/-- What the first of some siblings declares comes before what is declared among the others. -/
theorem Lists.siblings {k : ℕ} {node : Node} {rest : List Node} {own others : List TypeSymbol}
    {rule : List Node → Node → Site → Prop} (ofNode : context.Lists own (rule [] node))
    (ofRest : context.Lists others (Among (k + 1) rest fun front => rule (node :: front))) :
    context.Lists (own ++ others) (Among k (node :: rest) rule) := by
  refine ((ofNode.below k).append ofRest ?_).congr fun site => among_cons.symm
  -- The index of the first one is below that of the sibling that the other place leads through.
  rintro site other ⟨inside, -, rfl⟩ ⟨front, child, behind, insideToo, -, -, rfl⟩
  exact List.cons_lt_cons_iff.mpr (Or.inl (by omega))

/-- What is declared by a type comes first, and then what is declared in it. -/
theorem Lists.cons {site : Site} {nested : List TypeSymbol} {declared : Site → Prop}
    (atNode : site.place = []) (lists : context.Lists nested declared)
    (inside : ∀ other, declared other → other.place ≠ []) :
    context.Lists (context.symbolAt site :: nested) fun other =>
      other = site ∨ declared other := by
  have itself : context.Lists [context.symbolAt site] fun other => other = site :=
    ⟨[site], List.pairwise_singleton _ _, fun _ => List.mem_singleton, rfl⟩
  refine itself.append lists ?_
  rintro _ other rfl isNested
  obtain ⟨i, rest, place⟩ := List.exists_cons_of_ne_nil (inside other isNested)
  rw [atNode, place]
  exact List.nil_lt_cons i rest

/-! ## The recursions -/

/-- What a child of a node declares, in the namespace that holds in front of it. -/
def Enters (context : FileContext) (outer scope : Option String) (child : Node) (site : Site) :
    Prop :=
  DeclaredBy context scope none child site ∨
    ((child.label = .blockNamespace ∨ child.label = .fileNamespace) ∧
      ∃ inner, context.namespaceOf? outer child = some inner ∧
        DeclaredIn context (some inner) child site) ∨
    ((child.label = .declarationList ∨ child.label = .error) ∧
      DeclaredIn context scope child site)

/-- What is declared in a node is what its children declare. -/
theorem declaredIn_iff {parent : Node} {site : Site} :
    DeclaredIn context outer parent site ↔
      Among 0 parent.children (fun front => Enters context outer
        (context.scopeBehind outer outer front)) site := by
  constructor
  · intro declared
    cases declared with
    | byType split declared =>
      exact ⟨_, _, _, _, split, Or.inl declared, by rw [Nat.zero_add]⟩
    | inNamespace split isNamespace named declared =>
      exact ⟨_, _, _, _, split, Or.inr (Or.inl ⟨isNamespace, _, named, declared⟩),
        by rw [Nat.zero_add]⟩
    | inPassage split isPassage declared =>
      exact ⟨_, _, _, _, split, Or.inr (Or.inr ⟨isPassage, declared⟩), by rw [Nat.zero_add]⟩
  · rintro ⟨front, child, behind, inside, split, held, rfl⟩
    rw [Nat.zero_add]
    rcases held with declared | ⟨isNamespace, inner, named, declared⟩ | ⟨isPassage, declared⟩
    · exact .byType split declared
    · exact .inNamespace split isNamespace named declared
    · exact .inPassage split isPassage declared

/-- What the members of a body declare. -/
def Members (context : FileContext) (scope container : Option String) (body : Node) :
    Site → Prop :=
  Among 0 body.children fun _ => DeclaredBy context scope container

/-- What a part of a type declares, if it is its first body. -/
def InBody (context : FileContext) (scope container : Option String) (front : List Node)
    (part : Node) (site : Site) : Prop :=
  part.role = some .body ∧ (∀ other ∈ front, other.role ≠ some .body) ∧
    Members context scope container part site

/-- What a type declares is the type itself and what the members of its body declare. -/
theorem declaredBy_iff {node nameNode : Node} {kind : TypeKind} {site : Site}
    (isType : node.label = .typeDeclaration kind) (named : node.child? .name = some nameNode) :
    DeclaredBy context scope container node site ↔
      site = ⟨[], node, kind, context.textOf nameNode, scope, container⟩ ∨
        Among 0 node.children (InBody context scope (some (context.textOf nameNode))) site := by
  constructor
  · intro declared
    cases declared with
    | itself isTypeToo namedToo =>
      obtain rfl := Option.some.inj (named.symm.trans namedToo)
      obtain rfl := Label.typeDeclaration.inj (isType.symm.trans isTypeToo)
      exact Or.inl rfl
    | member isTypeToo namedToo split isBody first inBody declared =>
      obtain rfl := Option.some.inj (named.symm.trans namedToo)
      refine Or.inr ⟨_, _, _, _, split, ⟨isBody, first, _, _, _, _, inBody, declared, rfl⟩, ?_⟩
      rw [Nat.zero_add, Nat.zero_add]
  · rintro (rfl | ⟨parts, body, others, _, split, ⟨isBody, first, before, child, after, inside,
      inBody, declared, rfl⟩, rfl⟩)
    · exact .itself isType named
    · rw [Nat.zero_add, Nat.zero_add]
      exact .member isType named split isBody first inBody declared

/-- What is collected from a node is what it declares, however the node is reached: as a place where
declarations may stand, as a type, or as the body of a type. -/
structure IsListed (context : FileContext) (node : Node) : Prop where
  /-- The types below the node. -/
  below : ∀ scope, context.Lists (context.typesBelow scope none node)
    (DeclaredIn context scope node)
  /-- The type that the node stands for, with those nested in it. -/
  byType : ∀ kind scope container, node.label = .typeDeclaration kind →
    context.Lists (context.typesOf kind scope container node)
      (DeclaredBy context scope container node)
  /-- The types that are members of the node. -/
  members : ∀ scope container, context.Lists (context.nestedIn scope container node)
    (Members context scope (some container) node)

/-- The types that a child of a node declares. -/
def typesAt (context : FileContext) (outer scope : Option String) (node : Node) :
    List TypeSymbol :=
  match node.label with
  | .blockNamespace | .fileNamespace =>
    match context.namespaceOf? outer node with
    | some inner => context.typesBelow (some inner) none node
    | none => []
  | .typeDeclaration kind => context.typesOf kind scope none node
  | .declarationList | .error => context.typesBelow scope none node
  | _ => []

/-- The namespace that holds behind siblings and more siblings. -/
theorem scopeBehind_append (front behind : List Node) :
    context.scopeBehind outer scope (front ++ behind) =
      context.scopeBehind outer (context.scopeBehind outer scope front) behind := by
  rw [scopeBehind, scopeBehind, scopeBehind, fileNamespaces, List.filter_append,
    List.filterMap_append, List.getLast?_append, Option.or_assoc]
  rfl

/-- Behind a namespace for the rest of the file this one holds, if it has a name. -/
theorem scopeBehind_of_file {node : Node} (isFile : node.label = .fileNamespace) :
    context.scopeBehind outer scope [node] = (context.namespaceOf? outer node).or scope := by
  rw [scopeBehind, fileNamespaces, List.filter_cons, if_pos (by rw [isFile]; rfl), List.filter_nil]
  cases named : context.namespaceOf? outer node with
  | none => rw [List.filterMap_cons_none named]; rfl
  | some inner => rw [List.filterMap_cons_some named]; rfl

/-- Behind any other node the same namespace holds as in front of it. -/
theorem scopeBehind_of_ne {node : Node} (other : node.label ≠ .fileNamespace) :
    context.scopeBehind outer scope [node] = scope := by
  rw [scopeBehind, fileNamespaces, List.filter_cons, if_neg (by simpa using other)]
  rfl

/-- The types among siblings are those of the first one and then those of the others, in the
namespace that holds behind it. -/
theorem typesAmong_cons (node : Node) (rest : List Node) :
    context.typesAmong outer scope none (node :: rest) =
      context.typesAt outer scope node ++
        context.typesAmong outer (context.scopeBehind outer scope [node]) none rest := by
  by_cases isFile : node.label = .fileNamespace
  · rw [scopeBehind_of_file isFile, typesAmong, typesAt, isFile]
    cases context.namespaceOf? outer node <;> rfl
  · rw [scopeBehind_of_ne isFile, typesAmong, typesAt]
    generalize node.label = label at isFile
    cases label with
    | fileNamespace => exact absurd rfl isFile
    | blockNamespace => cases context.namespaceOf? outer node <;> rfl
    | _ => rfl

/-- A node that stands for something else than a type declares nothing by itself. -/
theorem not_declaredBy {node : Node} {site : Site}
    (noType : ∀ kind, node.label ≠ .typeDeclaration kind) :
    ¬ DeclaredBy context scope container node site := by
  intro declared
  obtain ⟨kind, isType⟩ := declared.exists_kind
  exact noType kind isType

/-- What is collected from a namespace among the children of a node is what it declares. -/
theorem IsListed.ofNamespace {node : Node} (listed : IsListed context node)
    (isNamespace : node.label = .blockNamespace ∨ node.label = .fileNamespace) :
    context.Lists
      (match context.namespaceOf? outer node with
        | some inner => context.typesBelow (some inner) none node
        | none => [])
      (Enters context outer scope node) := by
  have entered : ∀ site, Enters context outer scope node site ↔
      ∃ inner, context.namespaceOf? outer node = some inner ∧
        DeclaredIn context (some inner) node site := by
    intro site
    have noType : ¬ DeclaredBy context scope none node site := by
      refine not_declaredBy fun kind isType => ?_
      rcases isNamespace with is | is <;> cases is.symm.trans isType
    have noPassage : ¬ (node.label = .declarationList ∨ node.label = .error) := by
      rcases isNamespace with is | is <;> simp [is]
    simp only [Enters, noType, noPassage, isNamespace, false_or, true_and, false_and, or_false]
  cases named : context.namespaceOf? outer node with
  | none => exact .nil fun site => by simp [entered, named]
  | some inner => exact (listed.below (some inner)).congr fun site => by simp [entered, named]

/-- What is collected from a list of declarations or an error node among the children of a node is
what it declares. -/
theorem IsListed.ofPassage {node : Node} (listed : IsListed context node)
    (isPassage : node.label = .declarationList ∨ node.label = .error) :
    context.Lists (context.typesBelow scope none node) (Enters context outer scope node) := by
  refine (listed.below scope).congr fun site => ?_
  have noType : ¬ DeclaredBy context scope none node site := by
    refine not_declaredBy fun kind isType => ?_
    rcases isPassage with is | is <;> cases is.symm.trans isType
  have noNamespace : ¬ (node.label = .blockNamespace ∨ node.label = .fileNamespace) := by
    rcases isPassage with is | is <;> simp [is]
  simp only [Enters, noType, noNamespace, isPassage, false_or, true_and, false_and]

/-- What is collected from a child of a node is what it declares. -/
theorem IsListed.typesAt {node : Node} (listed : IsListed context node) :
    context.Lists (context.typesAt outer scope node) (Enters context outer scope node) := by
  unfold FileContext.typesAt
  split
  · next isBlock => exact listed.ofNamespace (Or.inl isBlock)
  · next isFile => exact listed.ofNamespace (Or.inr isFile)
  · next kind isType =>
    refine (listed.byType kind scope none isType).congr fun site => ?_
    simp [Enters, isType]
  · next isList => exact listed.ofPassage (Or.inl isList)
  · next isError => exact listed.ofPassage (Or.inr isError)
  · next noBlock noFile noType noList noError =>
    refine .nil fun site => ?_
    rintro (declared | ⟨isBlock | isFile, -⟩ | ⟨isList | isError, -⟩)
    · exact not_declaredBy noType declared
    · exact noBlock isBlock
    · exact noFile isFile
    · exact noList isList
    · exact noError isError

/-- What is collected among siblings is what they declare. -/
theorem lists_typesAmong {siblings : List Node}
    (listed : ∀ child ∈ siblings, IsListed context child) (k : ℕ) (scope : Option String) :
    context.Lists (context.typesAmong outer scope none siblings)
      (Among k siblings fun front =>
        Enters context outer (context.scopeBehind outer scope front)) := by
  induction siblings generalizing k scope with
  | nil => exact .nil fun _ => not_among_nil
  | cons node rest ih =>
    obtain ⟨listedNode, listedRest⟩ := List.forall_mem_cons.mp listed
    rw [typesAmong_cons]
    refine Lists.siblings listedNode.typesAt ?_
    have others := ih listedRest (k + 1) (context.scopeBehind outer scope [node])
    simp only [← scopeBehind_append, List.singleton_append] at others
    exact others

/-- What is collected among the members of a body is what they declare. -/
theorem lists_nestedAmong {members : List Node}
    (listed : ∀ child ∈ members, IsListed context child) (k : ℕ) (container : String) :
    context.Lists (context.nestedAmong scope container members)
      (Among k members fun _ => DeclaredBy context scope (some container)) := by
  induction members generalizing k with
  | nil => exact .nil fun _ => not_among_nil
  | cons node rest ih =>
    obtain ⟨listedNode, listedRest⟩ := List.forall_mem_cons.mp listed
    have others := ih listedRest (k + 1)
    rw [nestedAmong]
    split
    · next kind isType => exact Lists.siblings (listedNode.byType kind scope _ isType) others
    · next noType => exact Lists.siblings (.nil fun _ => not_declaredBy noType) others

/-- What is collected in the first body among the parts of a type is what its members declare. -/
theorem lists_nestedInBody {parts : List Node}
    (listed : ∀ part ∈ parts, IsListed context part) (k : ℕ) (container : String) :
    context.Lists (context.nestedInBody scope container parts)
      (Among k parts (InBody context scope (some container))) := by
  induction parts generalizing k with
  | nil => exact .nil fun _ => not_among_nil
  | cons part rest ih =>
    obtain ⟨listedPart, listedRest⟩ := List.forall_mem_cons.mp listed
    rw [nestedInBody]
    split
    · next isBody =>
      have own : context.Lists (context.nestedIn scope container part)
          (InBody context scope (some container) [] part) :=
        (listedPart.members scope container).congr fun site => by simp [InBody, isBody]
      -- This is the first body, so there is none behind it.
      have others : context.Lists [] (Among (k + 1) rest fun front =>
          InBody context scope (some container) (part :: front)) := by
        refine .nil ?_
        rintro site ⟨front, child, behind, inside, -, ⟨-, first, -⟩, -⟩
        exact first part List.mem_cons_self isBody
      simpa using Lists.siblings own others
    · next noBody =>
      have own : context.Lists [] (InBody context scope (some container) [] part) :=
        .nil fun site isBody => noBody isBody.1
      have same : ∀ front, InBody context scope (some container) (part :: front) =
          InBody context scope (some container) front := by
        intro front
        funext other site
        simp only [InBody, List.forall_mem_cons, noBody, ne_eq, not_false_eq_true, true_and]
      refine Lists.siblings own ?_
      simp only [same]
      exact ih listedRest (k + 1)

/-- What is collected from a node is what it declares. -/
theorem isListed (context : FileContext) (node : Node) : IsListed context node := by
  -- A child can be reached in other ways than its parent, so all three are carried together.
  induction node using Node.children_induction with
  | step node ih =>
    obtain ⟨label, role, span, supplied, children⟩ := node
    refine ⟨fun scope => ?_, fun kind scope container isType => ?_, fun scope container => ?_⟩
    · rw [typesBelow]
      exact (lists_typesAmong ih 0 scope).congr fun site => declaredIn_iff.symm
    · rw [typesOf]
      split
      · next nameNode named =>
        refine (Lists.cons rfl (lists_nestedInBody ih 0 _) ?_).congr fun site =>
          (declaredBy_iff isType named).symm
        rintro _ ⟨front, child, behind, inside, -, -, rfl⟩
        exact List.cons_ne_nil _ _
      · next nameless =>
        refine .nil fun site declared => ?_
        cases declared with
        | itself _ named => exact nomatch named.symm.trans nameless
        | member _ named => exact nomatch named.symm.trans nameless
    · rw [nestedIn]
      exact lists_nestedAmong ih 0 container

/-! ## The types of a file -/

/-- The methods that a type declares: those with a name directly in its body. -/
def methodNodes (node : Node) : List Node :=
  match node.child? .body with
  | some body => body.children.filter fun child =>
      child.label == .methodDeclaration && (child.child? .name).isSome
  | none => []

/-- A type that is collected says what its declaration says. -/
structure IsSymbolOf (context : FileContext) (site : Site) (symbol : TypeSymbol) : Prop where
  /-- The name is that of the declaration. -/
  name : symbol.name = site.name
  /-- The kind is that of the declaration. -/
  kind : symbol.kind = site.kind
  /-- The namespace is that which holds at the declaration. -/
  namespaceName : symbol.namespaceName = site.namespaceName
  /-- The type that it is nested in is the one that the declaration is directly in. -/
  containingType : symbol.containingType = site.containingType
  /-- The methods are those directly in the body, in their order. -/
  methods : List.Forall₂ (fun node method => context.methodOf? node = some method)
    (methodNodes site.node) symbol.methods

/-- What is made of some things goes with those of them that something is made of. -/
theorem forall₂_filterMap {α β : Type} (f : α → Option β) (items : List α) :
    List.Forall₂ (fun a b => f a = some b) (items.filter fun a => (f a).isSome)
      (items.filterMap f) := by
  induction items with
  | nil => exact .nil
  | cons a rest ih =>
    cases made : f a with
    | none =>
      rw [List.filterMap_cons_none made, List.filter_cons_of_neg (by simp [made])]
      exact ih
    | some b =>
      rw [List.filterMap_cons_some made, List.filter_cons_of_pos (by simp [made])]
      exact .cons made ih

/-- The methods that are collected are those directly in the body of a type that have a name. -/
theorem forall₂_methodsOf (context : FileContext) (node : Node) :
    List.Forall₂ (fun node method => context.methodOf? node = some method)
      (methodNodes node) (context.methodsOf node) := by
  have named : (fun child => (context.methodOf? child).isSome) =
      fun child : Node => (child.child? .name).isSome := by
    funext child
    exact Option.isSome_map
  rw [methodNodes, methodsOf]
  cases node.child? .body with
  | none => exact .nil
  | some body =>
    have methods := forall₂_filterMap context.methodOf?
      (body.children.filter fun child => child.label == .methodDeclaration)
    rw [named, List.filter_filter] at methods
    simpa only [Bool.and_comm] using methods

/-- The types that are collected from a file are those that it declares, one for each place of a
declaration, in the order of the places. Places are ordered like words in a dictionary, so a type
comes before those nested in it and a node before all behind it. -/
theorem typesIn_preorder (context : FileContext) (root : Node) :
    ∃ sites : List Site,
      (∀ site, site ∈ sites ↔ DeclaredIn context none root site) ∧
      (sites.map Site.place).Pairwise (· < ·) ∧
      (∀ site ∈ sites, root.at? site.place = some site.node) ∧
      List.Forall₂ (IsSymbolOf context) sites (context.typesIn root) ∧
      ∀ outer node inner, context.namespaceOf? outer node = some inner ↔
        ∃ nameNode, node.child? .name = some nameNode ∧
          ((outer = none ∨ outer = some "") ∧ inner = Unicode.trim (context.textOf nameNode) ∨
            ∃ around, outer = some around ∧ around ≠ "" ∧
              inner = around ++ "." ++ Unicode.trim (context.textOf nameNode)) := by
  obtain ⟨sites, ordered, covers, types_eq⟩ := (isListed context root).below none
  refine ⟨sites, covers, ordered, fun site mem => ((covers site).mp mem).at?_eq, ?_,
    fun outer node inner => namespaceOf?_eq_some_iff⟩
  rw [typesIn, types_eq, List.forall₂_map_right_iff, List.forall₂_same]
  exact fun site _ => ⟨rfl, rfl, rfl, rfl, forall₂_methodsOf context site.node⟩

end FileContext

end TypedMvc.Symbols
