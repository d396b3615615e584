/-! # Glob patterns

A pattern is a sequence of pieces. It describes the bytes of a path, not its characters: a piece for
one arbitrary byte does not match a character that takes two.
-/

namespace MarkerReport.Glob

/-- A piece of a pattern. -/
inductive Piece where
  /-- The character itself. -/
  | literal (c : Char)
  /-- Any one byte. -/
  | anyByte
  /-- Any bytes. -/
  | anyBytes
  /-- At the start of a pattern, any number of whole components. -/
  | leading
  /-- At the end of a pattern, everything below a component. -/
  | trailing
  /-- Between two components, any number of whole components. -/
  | between
  /-- A byte in one of the ranges, or, if negated, in none of them. -/
  | oneOf (negated : Bool) (ranges : List (Char × Char))
  /-- Any one of the branches. -/
  | alternatives (branches : List (List Piece))
deriving Repr, Inhabited

/-- Why a pattern cannot be read. -/
inductive Fault where
  | unclosedClass
  | invalidRange (first last : Char)
  | unopenedGroup
  | unclosedGroup
  | danglingEscape
deriving Repr, DecidableEq, Inhabited

/-- The words for a fault. -/
def Fault.reason : Fault → String
  | .unclosedClass => "unclosed character class; missing ']'"
  | .invalidRange first last =>
      "invalid range; '" ++ first.toString ++ "' > '" ++ last.toString ++ "'"
  | .unopenedGroup =>
      "unopened alternate group; missing '\x7b' (maybe escape '\x7d' with '[\x7d]'?)"
  | .unclosedGroup =>
      "unclosed alternate group; missing '\x7d' (maybe escape '\x7b' with '[\x7b]'?)"
  | .danglingEscape => "dangling '\\'"

/-- The complaint about a pattern with a fault. -/
def Fault.message (pattern : String) (fault : Fault) : String :=
  "error parsing glob '" ++ pattern ++ "': " ++ fault.reason

end MarkerReport.Glob

namespace MarkerReport

/-- A glob pattern. -/
structure Glob where
  pieces : List Glob.Piece
deriving Repr, Inhabited

end MarkerReport
