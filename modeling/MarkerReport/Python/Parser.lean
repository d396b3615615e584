import MarkerReport.Python.Token

/-! # Parsing

A parser reads tokens one at a time, with one token of look-ahead. The look-ahead is read once for
each place, with the line structure that is of use there, and kept until it is taken.

The grammar is recursive, and its rules are not: each rule takes as an argument the parser `self`
that it calls for the parts that may nest, its *goals*. Tying the rules together is left to one
function, which counts down how deeply goals are nested.
-/

namespace MarkerReport.Python

/-- How far a text has been parsed. -/
structure State where
  cursor : Cursor
  /-- The widths of the open blocks, innermost first. -/
  blocks : List Nat := [0]
  /-- Whether the string opened last is an interpolating one that has not been closed. -/
  inFormat : Bool := false
  /-- The look-ahead. -/
  ahead : Option Lexeme := none
  /-- The comments and continuations passed since the innermost unfinished node started, last one
  first. -/
  trivia : List SyntaxTree := []
deriving Inhabited

/-- A parser. It fails on a text that its rule does not fit. -/
abbrev Parser := StateT State Option

/-- The place of an expression: what may come right after it. -/
structure Context where
  /-- A statement may end after the expression. -/
  newline : Bool := false
  /-- A bracket may close after the expression. -/
  close : Bool := false
  /-- The expression may be conditional. -/
  conditional : Bool := true
deriving Repr, Inhabited

namespace Context

/-- An expression that ends a statement. -/
def line : Context := { newline := true }

/-- An expression in brackets. -/
def bracket : Context := { close := true }

/-- An expression with more to come on its line. -/
def inner : Context := {}

/-- What may come after the expression. `string` tells whether a string may. -/
def after (context : Context) (string : Bool) : Expect :=
  { newline := context.newline, close := context.close, string }

end Context

/-- The parts of a text that may nest, with what parsing them yields. -/
inductive Goal : Type → Type where
  | expression (context : Context) : Goal SyntaxTree
  /-- An expression without connectives: a negation, an anonymous function or a comparison. -/
  | inversion (context : Context) : Goal SyntaxTree
  /-- An operand with the signs before it. -/
  | operand (context : Context) : Goal SyntaxTree
  /-- Something in braces inside a string. -/
  | interpolation : Goal SyntaxTree
  /-- A pattern of a case. -/
  | pattern (close : Bool) : Goal SyntaxTree
  /-- A parameter that is taken apart. -/
  | target (context : Context) : Goal SyntaxTree
  /-- The body of a compound statement. -/
  | suite : Goal SyntaxTree
  /-- A line of simple statements, or a compound statement. -/
  | statement (inBlock : Bool) : Goal (List SyntaxTree)

namespace Parser

/-- The next token, read as `expect` says unless it has been read already. -/
def peek (expect : Expect) : Parser Token := do
  let state ← get
  match state.ahead with
  | some lexeme => return lexeme.token
  | none =>
      let (lexeme, trivia) := readLexeme expect state.blocks state.inFormat
        state.cursor.rest.length state.trivia state.cursor
      set { state with ahead := some lexeme, trivia }
      return lexeme.token

/-- Takes the token that was read last. -/
def advance : Parser Lexeme := do
  let state ← get
  match state.ahead with
  | none => failure
  | some lexeme =>
      let blocks :=
        match lexeme.token with
        | .mark (.indent width) => width :: state.blocks
        | .mark .dedent => state.blocks.tail
        | _ => state.blocks
      set { state with cursor := lexeme.stop, ahead := none, blocks }
      return lexeme

/-- The row and column at which the next token starts. -/
def position : Parser (Nat × Nat) := do
  let state ← get
  match state.ahead with
  | some lexeme => return (lexeme.row, lexeme.column)
  | none => return (state.cursor.row, state.cursor.column)

/-- Runs a parser for what a node is and what stands below it, and builds the node. The comments and
continuations passed on the way become children too. -/
def build (parser : Parser (NodeKind × Option String × List SyntaxTree)) : Parser SyntaxTree := do
  let (row, column) ← position
  let outer := (← get).trivia
  modify fun state => { state with trivia := [] }
  let (kind, name, children) ← parser
  let inner := (← get).trivia
  modify fun state => { state with trivia := outer }
  return .node kind row column name (children ++ inner.reverse)

/-- Builds a node of a given kind without a name. -/
def node (kind : NodeKind) (parser : Parser (List SyntaxTree)) : Parser SyntaxTree :=
  build do return (kind, none, ← parser)

/-- Takes the next token as a node without children. -/
def leaf (kind : NodeKind) : Parser SyntaxTree := do
  let lexeme ← advance
  return .node kind lexeme.row lexeme.column none []

/-- A node that starts where its first child starts. -/
def wrap (kind : NodeKind) (first : SyntaxTree) (later : List SyntaxTree) : SyntaxTree :=
  .node kind first.row first.column none (first :: later)

/-- Repeats a step at most `bound` times, until it yields nothing. -/
def iterate {α : Type} (step : Parser (Option α)) : (bound : Nat) → Parser (List α)
  | 0 => failure
  | bound + 1 => do
      match ← step with
      | none => return []
      | some result => return result :: (← iterate step bound)

/-- Repeats a step until it yields nothing. Every step but the last takes part of the text. -/
def many {α : Type} (step : Parser (Option α)) : Parser (List α) := do
  iterate step ((← get).cursor.rest.length + 2)

/-- Repeats a step on its own result at most `bound` times, until it yields nothing. -/
def iterateFrom {α : Type} (step : α → Parser (Option α)) : (bound : Nat) → α → Parser α
  | 0, _ => failure
  | bound + 1, value => do
      match ← step value with
      | none => return value
      | some result => iterateFrom step bound result

/-- Repeats a step on its own result until it yields nothing. -/
def manyFrom {α : Type} (step : α → Parser (Option α)) (value : α) : Parser α := do
  iterateFrom step ((← get).cursor.rest.length + 2) value

/-- Takes an operator that must come next. -/
def takeOperator (expect : Expect) (text : String) : Parser Unit := do
  match ← peek expect with
  | .operator found => if found == text then discard advance else failure
  | _ => failure

/-- Takes a word that must come next. -/
def takeWord (expect : Expect) (text : String) : Parser Unit := do
  match ← peek expect with
  | .word found => if found == text then discard advance else failure
  | _ => failure

/-- Takes an operator if it comes next. -/
def tryOperator (expect : Expect) (text : String) : Parser Bool := do
  match ← peek expect with
  | .operator found => if found == text then discard advance; return true else return false
  | _ => return false

/-- Takes a word if it comes next. -/
def tryWord (expect : Expect) (text : String) : Parser Bool := do
  match ← peek expect with
  | .word found => if found == text then discard advance; return true else return false
  | _ => return false

end Parser

/-- The words that cannot be names. -/
def reservedWords : List String :=
  ["False", "None", "True", "and", "as", "assert", "break", "class", "continue", "def", "del",
    "elif", "else", "except", "finally", "for", "from", "global", "if", "import", "in", "is",
    "lambda", "nonlocal", "not", "or", "pass", "raise", "return", "try", "while", "with", "yield"]

namespace Token

def isOperator (token : Token) (text : String) : Bool :=
  match token with
  | operator found => found == text
  | _ => false

def isWord (token : Token) (text : String) : Bool :=
  match token with
  | word found => found == text
  | _ => false

/-- Whether the token is a word that can be a name. -/
def isName : Token → Bool
  | word text => !reservedWords.contains text
  | _ => false

def isNewline : Token → Bool
  | mark .newline => true
  | _ => false

def isDedent : Token → Bool
  | mark .dedent => true
  | _ => false

/-- Whether an expression can start with the token. -/
def startsExpression : Token → Bool
  | word text =>
      !reservedWords.contains text || ["not", "lambda", "None", "True", "False"].contains text
  | number => true
  | mark (.stringStart ..) => true
  | operator text => ["(", "[", "\x7b", "+", "-", "~", "*", "..."].contains text
  | _ => false

end Token

namespace Parser

/-- Takes a name that must come next, and yields its text. -/
def takeName (expect : Expect) : Parser (String × SyntaxTree) := do
  match ← peek expect with
  | .word text =>
      if reservedWords.contains text then failure
      else return (text, ← leaf .identifier)
  | _ => failure

end Parser

end MarkerReport.Python
