import MarkerReport.Python.Statement

/-! # Modules

The rules of the grammar are tied together here. A goal is never nested in another one more deeply
than four times the length of the text, because of every few nested goals one takes a character.
-/

namespace MarkerReport.Python

open MarkerReport.Python.Parser

/-- The rule for a goal, given the parser for the goals nested in it. -/
def Goal.rule (self : ∀ {α : Type}, Goal α → Parser α) : {α : Type} → Goal α → Parser α
  | _, .expression context => Python.expression self context
  | _, .inversion context => Python.inversion self context
  | _, .operand context => Python.operand self context
  | _, .interpolation => Python.interpolation self
  | _, .pattern close => Python.pattern self close
  | _, .target context => Python.target self context
  | _, .suite => Python.suite self
  | _, .statement inBlock => Python.statement self inBlock

/-- The parser for a goal in which others are nested at most `depth` deep. -/
def Goal.parser : (depth : Nat) → {α : Type} → Goal α → Parser α
  | 0, _, _ => failure
  | depth + 1, _, goal => Goal.rule (Goal.parser depth) goal

/-- The statements of a whole text. -/
def moduleStatements (depth : Nat) : Parser SyntaxTree :=
  node .module do
    let statements ← many do
      match ← peek (afterSuite false) with
      | .endOfText => return none
      | _ => return some (← Goal.parser depth (.statement false))
    return statements.flatten

/-- The syntax tree of a source text, unless it has a syntax error. -/
def parse? (source : List Char) : Option SyntaxTree :=
  (moduleStatements (4 * source.length + 16)).run { cursor := .start source } |>.map Prod.fst

end MarkerReport.Python
