import TypedMvc.CSharp.Tree

/-!
# Remarks in lists of bases

Comments and passed-over directives may stand anywhere. Where they stand in a list of bases they
are children of it, like the bases themselves, unless they stand inside one of the bases.
-/

namespace TypedMvc.CSharp

/-- The node of a remark. -/
def Remark.node (remark : Remark) : Node := .mk .remark none remark.span false []

/-- Merges two lists of nodes by where the nodes start. -/
def mergeByStart : List Node → List Node → List Node
  | [], others => others
  | nodes, [] => nodes
  | node :: nodes, other :: others =>
    if node.span.start ≤ other.span.start then node :: mergeByStart nodes (other :: others)
    else other :: mergeByStart (node :: nodes) others

/-- The remarks in a stretch of text that stand in none of some nodes. -/
def remarksBetween (remarks : List Remark) (span : Span) (nodes : List Node) : List Remark :=
  remarks.filter fun remark =>
    remark.span.within span && !nodes.any fun node => remark.span.within node.span

mutual
/-- The tree with the remarks that stand in its lists of bases. -/
def attachRemarks (remarks : List Remark) : Node → Node
  | .mk label role span supplied children =>
    let children := attachRemarksAll remarks children
    if label = .baseList then
      let found := remarksBetween remarks span children
      .mk label role span supplied (mergeByStart children (found.map Remark.node))
    else .mk label role span supplied children

/-- The trees with the remarks that stand in their lists of bases. -/
def attachRemarksAll (remarks : List Remark) : List Node → List Node
  | [] => []
  | node :: rest => attachRemarks remarks node :: attachRemarksAll remarks rest
end

end TypedMvc.CSharp
