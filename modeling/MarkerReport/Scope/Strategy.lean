/-! # Ways of finding scopes -/

namespace MarkerReport

/-- How the scopes of a file are found. -/
inductive ScopeStrategy where
  /-- From the definitions in the syntax tree of the file. -/
  | syntaxTree
  /-- From the most recent signature or equation. -/
  | lineHeuristic
deriving Repr, DecidableEq, Inhabited

namespace ScopeStrategy

/-- The words by which a user knows the strategy. -/
def label : ScopeStrategy → String
  | .syntaxTree => "syntax tree (python)"
  | .lineHeuristic => "line heuristic (haskell)"

end ScopeStrategy

end MarkerReport
