import TypedMvc.CSharp.Lexer
import TypedMvc.CSharp.Recovery
import TypedMvc.CSharp.Remarks

/-!
# The tree of a source text

A source text is cut into tokens, the tokens are matched with the grammar, and the remarks are put
where they belong. Every text has a tree, if need be with errors in it. Other parsers can take the
place of this one (`Parser`).
-/

namespace TypedMvc.CSharp

/-- A parser: it has a tree for every source text. -/
abbrev Parser := Source → Node

/-- The tree of a source text. -/
def parse (source : Source) : Node :=
  let lexed := lex source
  attachRemarks lexed.remarks.toList (treeOf source lexed.tokens)

end TypedMvc.CSharp
