import MarkerReport.Error
import MarkerReport.Language
import MarkerReport.Python.Module
import MarkerReport.Scope.Equation
import MarkerReport.Scope.Tree
import MarkerReport.Text.Lines

/-! # From a source text to its scopes

The strategy for a file decides how its scope map is found. A map speaks of every line of the text.
Signatures and equations are found in any text; a syntax tree exists only for a text without syntax
errors, and one with statements of the older version of the language is rejected.
-/

namespace MarkerReport

namespace NodeKind

/-- The name of a kind of node in the grammar, where a message shows it. -/
def grammarName : NodeKind → String
  | .printStatement => "print_statement"
  | .execStatement => "exec_statement"
  | _ => "statement"

end NodeKind

namespace SyntaxTree

/-- The complaint about an outdated statement. -/
def outdatedError (statement : SyntaxTree) : Error :=
  .parse "python" (statement.kind.grammarName ++ " is not valid Python 3") none
    (some ⟨statement.row + 1, statement.column + 1⟩)

/-- The intervals of the definitions of a tree, unless it holds an outdated statement. -/
def definitions (tree : SyntaxTree) : Except Error (List Interval) :=
  match tree.outdated? with
  | some statement => .error (outdatedError statement)
  | none => .ok tree.intervals

end SyntaxTree

namespace Python

/-- The intervals of the definitions of a source text. -/
def definitions (source : List Char) : Except Error (List Interval) :=
  match parse? source with
  | some tree => tree.definitions
  | none => .error .malformed

end Python

namespace ScopeMap

/-- The scope map of a source text. -/
def resolve (strategy : ScopeStrategy) (source : List Char) : Except Error ScopeMap :=
  match strategy with
  | .lineHeuristic => .ok (Equation.scopeMap source)
  | .syntaxTree =>
      match Python.definitions source with
      | .ok intervals => .ok (ofIntervals (Text.lines source).length intervals)
      | .error error => .error error

/-- The scope map of the source text of a file. A rejected text is blamed on the file. -/
def resolveFor (path : String) (source : List Char) : Except Error ScopeMap :=
  (resolve (.forPath path) source).mapError (·.inFile path)

end ScopeMap

end MarkerReport
