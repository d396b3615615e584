import MarkerReport.Yaml.Glyph
import MarkerReport.Yaml.Token

/-! # Scalars of a YAML stream

Every reader here takes one glyph after the other and gives the text of the scalar and the glyphs
that follow it. Within quoted and plain scalars, blanks around line breaks do not count, one line
break stands for a blank, and of several line breaks all but the first are kept.
-/

namespace MarkerReport.Yaml

/-- Blanks and line breaks of which it is not yet known whether they count. -/
inductive Gap where
  | none
  | blanks (text : List Char)
  /-- The first line break and the others. After a break that is written with a backslash there is
  no first one. -/
  | breaks (first later : List Char)
deriving Repr, DecidableEq, Inhabited

namespace Gap

/-- The gap with another blank. -/
def blank (c : Char) : Gap → Gap
  | none => blanks [c]
  | blanks text => blanks (text ++ [c])
  | breaks first later => breaks first later

/-- The gap with another line break. -/
def lineBreak (c : Char) : Gap → Gap
  | breaks first later => breaks first (later ++ [c])
  | _ => breaks [c] []

/-- What a gap stands for between two characters. -/
def text : Gap → List Char
  | none => []
  | blanks text => text
  | breaks first later =>
      if first = ['\n'] then if later = [] then [' '] else later else first ++ later

/-- Whether a gap holds a line break. -/
def isBroken : Gap → Bool
  | breaks _ _ => true
  | _ => false

/-- Whether a gap holds nothing. -/
def isNone : Gap → Bool
  | none => true
  | _ => false

end Gap

/-- Text in front of what a reader gives. -/
def andThen (text : List Char) (read : Option (List Char × List Glyph)) :
    Option (List Char × List Glyph) :=
  match read with
  | some (later, rest) => some (text ++ later, rest)
  | none => none

/-- Reads a scalar in single quotes after the opening quote. -/
def singleQuoted (gap : Gap) : List Glyph → Option (List Char × List Glyph)
  | [] => none
  | glyph :: rest =>
      if glyph.isBlank then singleQuoted (gap.blank glyph.char) rest
      else if glyph.isBreak then singleQuoted (gap.lineBreak glyph.char) rest
      else if atDocumentMark (glyph :: rest) then none
      else if glyph.char == '\'' then
        match rest with
        | next :: more =>
            if next.char == '\'' then andThen (gap.text ++ ['\'']) (singleQuoted .none more)
            else some (gap.text, next :: more)
        | [] => some (gap.text, [])
      else andThen (gap.text ++ [glyph.char]) (singleQuoted .none rest)

/-- The character that stands behind a backslash for another one. -/
def escaped? : Char → Option Char
  | '0' => some '\x00'
  | 'a' => some '\x07'
  | 'b' => some '\x08'
  | 't' => some '\t'
  | '\t' => some '\t'
  | 'n' => some '\n'
  | 'v' => some '\x0b'
  | 'f' => some '\x0c'
  | 'r' => some '\r'
  | 'e' => some '\x1b'
  | ' ' => some ' '
  | '"' => some '"'
  | '/' => some '/'
  | '\\' => some '\\'
  | 'N' => some '\u0085'
  | '_' => some '\u00A0'
  | 'L' => some '\u2028'
  | 'P' => some '\u2029'
  | _ => none

/-- How many hexadecimal digits follow a backslash and a letter. -/
def codeLength? : Char → Option Nat
  | 'x' => some 2
  | 'u' => some 4
  | 'U' => some 8
  | _ => none

/-- The value of a hexadecimal digit. -/
def hexValue? (c : Char) : Option Nat :=
  if '0' ≤ c && c ≤ '9' then some (c.toNat - 48)
  else if 'a' ≤ c && c ≤ 'f' then some (c.toNat - 87)
  else if 'A' ≤ c && c ≤ 'F' then some (c.toNat - 55)
  else none

/-- The character with a code, if there is one. -/
def charOfCode? (code : Nat) : Option Char :=
  if code.isValidChar then some (Char.ofNat code) else none

/-- What is being read of a scalar in double quotes. -/
inductive Quoting where
  | text (gap : Gap)
  /-- The digits of a code: how many are left after the next one, and the value so far. -/
  | code (left value : Nat)
deriving Repr, DecidableEq, Inhabited

/-- Reads a scalar in double quotes after the opening quote. -/
def doubleQuoted : Quoting → List Glyph → Option (List Char × List Glyph)
  | _, [] => none
  | .code left value, glyph :: rest =>
      match hexValue? glyph.char with
      | none => none
      | some digit =>
          match left with
          | left + 1 => doubleQuoted (.code left (16 * value + digit)) rest
          | 0 =>
              match charOfCode? (16 * value + digit) with
              | some c => andThen [c] (doubleQuoted (.text .none) rest)
              | none => none
  | .text gap, glyph :: rest =>
      if glyph.isBlank then doubleQuoted (.text (gap.blank glyph.char)) rest
      else if glyph.isBreak then doubleQuoted (.text (gap.lineBreak glyph.char)) rest
      else if atDocumentMark (glyph :: rest) then none
      else if glyph.char == '"' then some (gap.text, rest)
      else if glyph.char == '\\' then
        match rest with
        | [] => none
        | next :: more =>
            if next.isBreak then andThen gap.text (doubleQuoted (.text (.breaks [] [])) more)
            else
              match escaped? next.char, codeLength? next.char with
              | some c, _ => andThen (gap.text ++ [c]) (doubleQuoted (.text .none) more)
              | none, some length => andThen gap.text (doubleQuoted (.code (length - 1) 0) more)
              | none, none => none
      else andThen (gap.text ++ [glyph.char]) (doubleQuoted (.text .none) rest)

/-- Whether a character separates the parts of a flow collection. -/
def isFlowIndicator (c : Char) : Bool :=
  c == ',' || c == '[' || c == ']' || c == '\x7b' || c == '\x7d'

/-- What a reader of plain scalars gives: the text, whether a line break follows it, and the glyphs
behind it. -/
abbrev PlainRead := Option (List Char × Bool × List Glyph)

/-- Reads a plain scalar. Within blocks its lines must not start before the column `margin`. -/
def plain (inFlow : Bool) (margin : Nat) (gap : Gap) : List Glyph → PlainRead
  | [] => some ([], gap.isBroken, [])
  | glyph :: rest =>
      if glyph.isBlank then
        if glyph.char == '\t' && gap.isBroken && glyph.column < margin then none
        else plain inFlow margin (gap.blank glyph.char) rest
      else if glyph.isBreak then plain inFlow margin (gap.lineBreak glyph.char) rest
      else if gap.isBroken && !inFlow && glyph.column < margin then
        some ([], gap.isBroken, glyph :: rest)
      else if atDocumentMark (glyph :: rest) || (glyph.char == '#' && !gap.isNone) then
        some ([], gap.isBroken, glyph :: rest)
      else if inFlow && glyph.char == ':' &&
          rest.head?.any (fun next => isFlowIndicator next.char || next.char == '?') then none
      else if (glyph.char == ':' && atGap rest) || (inFlow && isFlowIndicator glyph.char) then
        some ([], gap.isBroken, glyph :: rest)
      else
        match plain inFlow margin .none rest with
        | some (later, broken, after) => some (gap.text ++ glyph.char :: later, broken, after)
        | none => none

/-- What becomes of the line breaks at the end of a block scalar. -/
inductive Chomping where
  | strip
  | clip
  | keep
deriving Repr, DecidableEq, Inhabited

/-- The first line of a block scalar: its chomping, and its indentation if that is given. -/
structure BlockHeader where
  chomping : Chomping
  /-- Zero if the indentation is not given. -/
  increment : Nat
deriving Repr, DecidableEq, Inhabited

/-- Reads a chomping indicator. -/
def chomping? : List Glyph → Option (Chomping × List Glyph)
  | [] => none
  | glyph :: rest =>
      if glyph.char == '+' then some (.keep, rest)
      else if glyph.char == '-' then some (.strip, rest)
      else none

/-- Reads an indentation indicator. Zero is not one. -/
def increment? : List Glyph → Option (Nat × List Glyph)
  | [] => some (0, [])
  | glyph :: rest =>
      if glyph.char == '0' then none
      else if glyph.char.isDigit then some (glyph.char.toNat - 48, rest)
      else some (0, glyph :: rest)

/-- Reads the indicators after the sign that opens a block scalar. -/
def blockHeader (glyphs : List Glyph) : Option (BlockHeader × List Glyph) :=
  match chomping? glyphs with
  | some (chomping, rest) =>
      match increment? rest with
      | some (increment, rest) => some (⟨chomping, increment⟩, rest)
      | none => none
  | none =>
      match increment? glyphs with
      | none => none
      | some (0, rest) => some (⟨.clip, 0⟩, rest)
      | some (increment, rest) =>
          match chomping? rest with
          | some (chomping, rest) => some (⟨chomping, increment⟩, rest)
          | none => some (⟨.clip, increment⟩, rest)

/-- Skips blanks and a comment up to and with the line break. Anything else is not expected. -/
def restOfLine (glyphs : List Glyph) : Option (List Glyph) :=
  let rest := glyphs.dropWhile Glyph.isBlank
  let rest := if atChar '#' rest then rest.dropWhile (!·.isBreak) else rest
  match rest with
  | [] => some []
  | glyph :: rest => if glyph.isBreak then some rest else none

/-- Skips the indentation and the empty lines at the start of a block scalar. Gives their line
breaks, the greatest column that was reached and what follows. An `indent` of zero is not known yet.
-/
def blockStart (indent widest : Nat) : List Glyph → Option (List Char × Nat × List Glyph)
  | [] => some ([], widest, [])
  | glyph :: rest =>
      let inside := indent == 0 || glyph.column < indent
      if inside && glyph.char == ' ' then blockStart indent (max widest (glyph.column + 1)) rest
      else if inside && glyph.char == '\t' then none
      else if glyph.isBreak then
        match blockStart indent (max widest glyph.column) rest with
        | some (breaks, reached, after) => some (glyph.char :: breaks, reached, after)
        | none => none
      else some ([], max widest glyph.column, glyph :: rest)

/-- What is being read of a block scalar. -/
inductive BlockPlace where
  /-- The start of a line: the last line break before it, whether the line before it started with a
  blank, and the line breaks of the empty lines between. -/
  | lineStart (last : List Char) (afterBlank : Bool) (empty : List Char)
  /-- Within a line, which may have started with a blank. -/
  | line (startsBlank : Bool)
deriving Repr, DecidableEq, Inhabited

/-- The line breaks between two lines of a block scalar that both have content. Lines that start
with a blank are not folded. -/
def between (folds startsBlank : Bool) (last : List Char) (afterBlank : Bool)
    (empty : List Char) : List Char :=
  if folds && last = ['\n'] && !afterBlank && !startsBlank then
    if empty = [] then [' '] else empty
  else last ++ empty

/-- The line breaks at the end of a block scalar. -/
def chomp (chomping : Chomping) (last empty : List Char) : List Char :=
  match chomping with
  | .strip => []
  | .clip => last
  | .keep => last ++ empty

/-- Reads the lines of a block scalar whose content starts at the column `indent`. -/
def blockLines (folds : Bool) (chomping : Chomping) (indent : Nat) :
    BlockPlace → List Glyph → Option (List Char × List Glyph)
  | .line _, [] => some ([], [])
  | .lineStart last _ empty, [] => some (chomp chomping last empty, [])
  | .line startsBlank, glyph :: rest =>
      if glyph.isBreak then
        blockLines folds chomping indent (.lineStart [glyph.char] startsBlank []) rest
      else andThen [glyph.char] (blockLines folds chomping indent (.line startsBlank) rest)
  | .lineStart last afterBlank empty, glyph :: rest =>
      if glyph.column < indent && glyph.char == ' ' then
        blockLines folds chomping indent (.lineStart last afterBlank empty) rest
      else if glyph.column < indent && glyph.char == '\t' then none
      else if glyph.isBreak then
        blockLines folds chomping indent (.lineStart last afterBlank (empty ++ [glyph.char])) rest
      else if glyph.column == indent then
        andThen (between folds glyph.isBlank last afterBlank empty ++ [glyph.char])
          (blockLines folds chomping indent (.line glyph.isBlank) rest)
      else some (chomp chomping last empty, glyph :: rest)

/-- Reads a block scalar after the sign that opens it. `margin` is the column at which the content
of the collection around it starts at the earliest. -/
def blockScalar (folds : Bool) (margin : Nat) (glyphs : List Glyph) :
    Option (List Char × List Glyph) := do
  let (header, rest) ← blockHeader glyphs
  let rest ← restOfLine rest
  let given := if header.increment = 0 then 0 else margin - 1 + header.increment
  let (breaks, widest, rest) ← blockStart given 0 rest
  let indent := if given = 0 then max (max widest margin) 1 else given
  blockLines folds header.chomping indent (.lineStart [] false breaks) rest

end MarkerReport.Yaml
