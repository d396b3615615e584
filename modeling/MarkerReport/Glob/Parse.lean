import MarkerReport.Glob.Basic

/-! # Reading a glob pattern

The characters of a pattern are read one after the other. `?` and `*` stand for one and for any
number of bytes, `[…]` for one byte of a set, `\` takes the next character literally, and braces
enclose alternatives, between which commas stand and which may nest.

Two stars that fill a whole component stand for any number of components. Together with the
separators around them they make one piece. Anywhere else two stars mean the same as one.
-/

namespace MarkerReport.Glob

/-- What has been read of a group of alternatives that is still open. -/
structure OpenGroup where
  /-- The pieces before the group, the last one first. -/
  before : List Piece
  /-- The finished branches of the group, the last one first. -/
  branches : List (List Piece)
deriving Repr, Inhabited

/-- What has been read of a pattern. -/
structure Draft where
  /-- The pieces of the current branch, the last one first. -/
  pieces : List Piece := []
  /-- The open groups, the innermost first. -/
  groups : List OpenGroup := []
deriving Repr, Inhabited

namespace Draft

/-- Appends a piece to the current branch. -/
def push (draft : Draft) (piece : Piece) : Draft := { draft with pieces := piece :: draft.pieces }

/-- Appends two stars that do not fill a component. -/
def pushStars (draft : Draft) : Draft := (draft.push .anyBytes).push .anyBytes

/-- Opens a group. -/
def openGroup (draft : Draft) : Draft :=
  { pieces := [], groups := ⟨draft.pieces, []⟩ :: draft.groups }

/-- A comma starts the next branch of a group and is an ordinary character elsewhere. -/
def comma (draft : Draft) : Draft :=
  match draft.groups with
  | [] => draft.push (.literal ',')
  | group :: outer =>
      { pieces := [],
        groups := { group with branches := draft.pieces.reverse :: group.branches } :: outer }

/-- Closes the innermost group. -/
def closeGroup (draft : Draft) : Except Fault Draft :=
  match draft.groups with
  | [] => .error .unopenedGroup
  | group :: outer =>
      .ok { pieces := .alternatives (draft.pieces.reverse :: group.branches).reverse ::
              group.before,
            groups := outer }

/-- Replaces the piece before two stars that fill a component by the piece for both. -/
def absorb (draft : Draft) (piece : Piece) : Draft :=
  match draft.pieces with
  | .leading :: _ => draft
  | .trailing :: _ => draft
  | _ :: earlier => { draft with pieces := piece :: earlier }
  | [] => draft.push piece

end Draft

/-- What the next character belongs to. -/
inductive Mode where
  /-- The pattern itself. -/
  | outside
  /-- A character taken literally. -/
  | escaped
  /-- A set of which nothing has been read. -/
  | opened
  /-- A set, with its ranges, the last one first. `ranging` tells whether the last character was a
  dash after a range; `first` whether none of its members has been read. -/
  | members (negated first ranging : Bool) (ranges : List (Char × Char))
deriving Repr, Inhabited

/-- Extends the last range of a set up to a character. -/
def extendRange (c : Char) : List (Char × Char) → Except Fault (List (Char × Char))
  | [] => .ok [(c, c)]
  | (first, _) :: earlier =>
      if c < first then .error (.invalidRange first c) else .ok ((first, c) :: earlier)

/-- Reads one member of a set. A closing bracket or a dash that comes first stands for itself. -/
def member (negated first ranging : Bool) (ranges : List (Char × Char)) (c : Char) :
    Except Fault Mode :=
  if first && (c == ']' || c == '-') then .ok (.members negated false false ((c, c) :: ranges))
  else if ranging then
    match extendRange c ranges with
    | .ok extended => .ok (.members negated false false extended)
    | .error fault => .error fault
  else if c == '-' then .ok (.members negated false true ranges)
  else .ok (.members negated false false ((c, c) :: ranges))

/-- The set with the given ranges. A dash at its end stands for itself. -/
def setOf (negated ranging : Bool) (ranges : List (Char × Char)) : Piece :=
  .oneOf negated (if ranging then ('-', '-') :: ranges else ranges).reverse

/-- Whether two stars can fill a component, given the character before them. -/
def startsComponent (draft : Draft) (previous : Option Char) : Bool :=
  previous == some '/' ||
    (!draft.groups.isEmpty && (previous == some ',' || previous == some '\x7b'))

/-- Reads characters of a pattern in a mode. `previous` is the character before them. -/
def readFrom : Mode → Draft → (previous : Option Char) → List Char → Except Fault Draft
  | .outside, draft, _, [] => .ok draft
  | .escaped, _, _, [] => .error .danglingEscape
  | .opened, _, _, [] => .error .unclosedClass
  | .members .., _, _, [] => .error .unclosedClass
  | .escaped, draft, _, c :: rest => readFrom .outside (draft.push (.literal c)) (some c) rest
  | .opened, draft, _, c :: rest =>
      if c == '!' || c == '^' then readFrom (.members true true false []) draft (some c) rest
      else
        match member false true false [] c with
        | .ok mode => readFrom mode draft (some c) rest
        | .error fault => .error fault
  | .members negated first ranging ranges, draft, _, c :: rest =>
      if c == ']' && !first then
        readFrom .outside (draft.push (setOf negated ranging ranges)) (some c) rest
      else
        match member negated first ranging ranges c with
        | .ok mode => readFrom mode draft (some c) rest
        | .error fault => .error fault
  | .outside, draft, previous, '*' :: '*' :: rest =>
      if draft.pieces.isEmpty then
        match rest with
        | [] => .ok (draft.push .leading)
        | '/' :: below => readFrom .outside (draft.push .leading) (some '/') below
        | other :: more => readFrom .outside draft.pushStars (some '*') (other :: more)
      else if startsComponent draft previous then
        match rest with
        | [] => .ok (draft.absorb .trailing)
        | '/' :: below => readFrom .outside (draft.absorb .between) (some '/') below
        | other :: more =>
            if (other == ',' || other == '\x7d') && !draft.groups.isEmpty then
              readFrom .outside (draft.absorb .trailing) (some '*') (other :: more)
            else readFrom .outside draft.pushStars (some '*') (other :: more)
      else readFrom .outside draft.pushStars (some '*') rest
  | .outside, draft, _, c :: rest =>
      match c with
      | '?' => readFrom .outside (draft.push .anyByte) (some c) rest
      | '*' => readFrom .outside (draft.push .anyBytes) (some c) rest
      | '[' => readFrom .opened draft (some c) rest
      | '\x7b' => readFrom .outside draft.openGroup (some c) rest
      | '\x7d' =>
          match draft.closeGroup with
          | .ok closed => readFrom .outside closed (some c) rest
          | .error fault => .error fault
      | ',' => readFrom .outside draft.comma (some c) rest
      | '\\' => readFrom .escaped draft (some c) rest
      | _ => readFrom .outside (draft.push (.literal c)) (some c) rest

/-- Reads a pattern. -/
def parse (pattern : String) : Except Fault Glob :=
  match readFrom .outside {} none pattern.toList with
  | .error fault => .error fault
  | .ok draft => if draft.groups.isEmpty then .ok ⟨draft.pieces.reverse⟩ else .error .unclosedGroup

end MarkerReport.Glob
