import MarkerReport.Scope.Map

/-! # Scopes read off a syntax tree

A syntax tree is a finite tree of nodes, each with its kind and the row and column at which it
starts. A definition that has a name takes the lines from the one it starts on to the last one on
which a node below it starts. Comments do not count, and of a string only its start and the
expressions interpolated into it.

Statements that only an older version of the language has are rejected. Of several, the one that
comes first when the children of every node are visited from the last to the first is reported.
-/

namespace MarkerReport

/-- What a node of a syntax tree is, as far as scopes and assignments depend on it. -/
inductive NodeKind where
  | module
  | block
  | comment
  | continuation
  | functionDefinition
  | classDefinition
  | printStatement
  | execStatement
  /-- Any other statement. -/
  | statement
  /-- A part of a compound statement or of a comprehension that starts with a keyword. -/
  | clause
  | parameters
  | arguments
  | identifier
  /-- A number, a truth value, the empty value or an ellipsis. -/
  | literal
  | string
  | interpolation
  | attribute
  | subscript
  | call
  | list
  | tuple
  | parenthesized
  | splat
  /-- Any other expression or part of one. -/
  | expression
deriving Repr, DecidableEq, Inhabited

/-- A node of a syntax tree. Rows and columns count from zero; columns count bytes. -/
inductive SyntaxTree where
  | node (kind : NodeKind) (row column : Nat) (name : Option String)
      (children : List SyntaxTree)
deriving Repr, Inhabited

namespace SyntaxTree

/-- What the node is. -/
def kind : SyntaxTree → NodeKind
  | node kind _ _ _ _ => kind

/-- The row at which the node starts. -/
def row : SyntaxTree → Nat
  | node _ row _ _ _ => row

/-- The column at which the node starts. -/
def column : SyntaxTree → Nat
  | node _ _ column _ _ => column

/-- The name that the node gives to what it defines. -/
def name : SyntaxTree → Option String
  | node _ _ _ name _ => name

/-- The nodes directly below the node, in order. -/
def children : SyntaxTree → List SyntaxTree
  | node _ _ _ _ children => children

/-- Whether a node counts towards the extent of the node directly above it. -/
def countsBelow (above : NodeKind) (tree : SyntaxTree) : Bool :=
  tree.kind != .comment && (above != .string || tree.kind == .interpolation)

mutual

/-- The last row on which the node or a node below it that counts starts. -/
def lastRow : SyntaxTree → Nat
  | node kind row _ _ children => max row (lastRowBelow kind children)

/-- The last row on which one of the trees that count below a node starts, or zero. -/
def lastRowBelow (above : NodeKind) : List SyntaxTree → Nat
  | [] => 0
  | tree :: later =>
      max (if countsBelow above tree then lastRow tree else 0) (lastRowBelow above later)

end

/-- Whether the node defines a function or a class. -/
def isDefinition (tree : SyntaxTree) : Bool :=
  tree.kind == .functionDefinition || tree.kind == .classDefinition

/-- The interval that the node itself takes, if it is a definition with a name. -/
def interval? (tree : SyntaxTree) : Option Interval :=
  if tree.isDefinition then
    tree.name.map fun name => ⟨tree.row + 1, tree.lastRow + 1, name⟩
  else none

mutual

/-- The intervals of the definitions of a tree, outer ones before inner ones and otherwise in
order. -/
def intervals : SyntaxTree → List Interval
  | node kind row column name children =>
      (interval? (node kind row column name children)).toList ++ intervalsBelow children

/-- The intervals of the definitions of several trees, in order. -/
def intervalsBelow : List SyntaxTree → List Interval
  | [] => []
  | tree :: later => intervals tree ++ intervalsBelow later

end

/-- Whether the node is a statement of the older version of the language. -/
def isOutdated (tree : SyntaxTree) : Bool :=
  tree.kind == .printStatement || tree.kind == .execStatement

mutual

/-- The outdated statement of a tree that is reported: the first one when the children of every node
are visited from the last to the first. -/
def outdated? : SyntaxTree → Option SyntaxTree
  | node kind row column name children =>
      if isOutdated (node kind row column name children) then
        some (node kind row column name children)
      else outdatedBelow? children

/-- The outdated statement of several trees that is reported, from the last tree to the first. -/
def outdatedBelow? : List SyntaxTree → Option SyntaxTree
  | [] => none
  | tree :: later =>
      match outdatedBelow? later with
      | some found => some found
      | none => outdated? tree

end

end SyntaxTree

end MarkerReport
