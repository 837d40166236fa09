import TypedMvc.CSharp.Tree

/-!
# Syntax errors

Each place of a file where the syntax is wrong is reported once: an error node or a supplied token
that is not inside another one.
-/

namespace TypedMvc.Symbols

open CSharp

/-- A report of wrong syntax. -/
structure Diagnostic where
  /-- The file. -/
  file : String
  /-- The line of the first token that is wrong. -/
  line : Nat
  /-- What is wrong. -/
  message : String
  deriving Repr, DecidableEq, Inhabited

/-- What is wrong at a node that is an error or stands for a missing token. -/
def messageAt (node : Node) : String :=
  match node.supplied, node.label with
  | true, .token text => "missing `" ++ text ++ "`"
  | _, _ => "syntax error"

mutual
/-- The reports for a node. Nothing is reported below the node that is wrong itself. -/
def diagnosticsAt (file : String) : Node → List Diagnostic
  | .mk label role span supplied children =>
    if label = .error ∨ supplied then
      [⟨file, span.line, messageAt (.mk label role span supplied children)⟩]
    else diagnosticsAmong file children

/-- The reports for siblings. Those without errors are passed over. -/
def diagnosticsAmong (file : String) : List Node → List Diagnostic
  | [] => []
  | node :: rest =>
    if node.hasError then diagnosticsAt file node ++ diagnosticsAmong file rest
    else diagnosticsAmong file rest
end

/-- The reports for a whole file. -/
def diagnosticsIn (file : String) (root : Node) : List Diagnostic :=
  if root.hasError then diagnosticsAt file root else []

end TypedMvc.Symbols
