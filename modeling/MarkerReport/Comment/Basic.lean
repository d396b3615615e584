/-! # Comments

Four ways of writing a comment are recognised in every file, whatever its language: a block between
`/*` and `*/`, and the rest of a line after `//`, `#` or `--`. Neither string literals nor nesting
are looked at.
-/

namespace MarkerReport

/-- How a comment is written. -/
inductive CommentStyle where
  /-- Between `/*` and the first `*/` after it, possibly over several lines. -/
  | block
  /-- From `//` to the end of the line. -/
  | doubleSlash
  /-- From `#` to the end of the line. -/
  | hash
  /-- From `--` to the end of the line. -/
  | doubleDash
deriving Repr, DecidableEq, Inhabited

namespace CommentStyle

/-- The characters that open a comment of this style. -/
def opener : CommentStyle → String
  | .block => "/*"
  | .doubleSlash => "//"
  | .hash => "#"
  | .doubleDash => "--"

/-- The style of a comment, told from its first characters. -/
def ofText : List Char → CommentStyle
  | '/' :: '*' :: _ => .block
  | '/' :: '/' :: _ => .doubleSlash
  | '#' :: _ => .hash
  | _ => .doubleDash

end CommentStyle

/-- A comment of a source text, with its delimiters. -/
structure Comment where
  /-- The line, counted from one, on which the comment opens. -/
  line : Nat
  style : CommentStyle
  text : List Char
deriving Repr, DecidableEq, Inhabited

end MarkerReport
