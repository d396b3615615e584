/-! # Characters of a YAML stream

A stream is read as a list of glyphs: characters that know where they stand. Line breaks are made
uniform on the way: a line feed, a carriage return, both together and a next-line character are one
line feed, while the line and the paragraph separator stay what they are.
-/

namespace MarkerReport.Yaml

/-- A character of a stream, with how many characters come before it, its line and its column, all
counted from zero. -/
structure Glyph where
  char : Char
  index : Nat
  line : Nat
  column : Nat
deriving Repr, DecidableEq, Inhabited

/-- The byte order mark. -/
def byteOrderMark : Char := '\uFEFF'

/-- Whether a stream may hold a character. -/
def isAllowed (c : Char) : Bool :=
  c == '\t' || c == '\n' || c == '\r' || (' ' ≤ c && c ≤ '~') || c == '\u0085' ||
    ('\u00A0' ≤ c && c ≤ '\uFFFD') || 0x10000 ≤ c.toNat

/-- Whether a character ends a line, after line breaks have been made uniform. -/
def isBreak (c : Char) : Bool := c == '\n' || c == '\u2028' || c == '\u2029'

/-- Whether a character is a blank within a line. -/
def isBlank (c : Char) : Bool := c == ' ' || c == '\t'

/-- Whether a character can be part of the name of an anchor, of a tag handle or of a directive. -/
def isNameChar (c : Char) : Bool := c.isAlphanum || c == '_' || c == '-'

namespace Glyph

/-- Whether the glyph is a line break. -/
def isBreak (glyph : Glyph) : Bool := Yaml.isBreak glyph.char

/-- Whether the glyph is a blank within a line. -/
def isBlank (glyph : Glyph) : Bool := Yaml.isBlank glyph.char

/-- The glyphs of a text that starts at the given place. -/
def ofText (index line column : Nat) : List Char → List Glyph
  | [] => []
  | '\r' :: '\n' :: rest => ⟨'\n', index, line, column⟩ :: ofText (index + 2) (line + 1) 0 rest
  | c :: rest =>
      if c == '\r' || c == '\u0085' then
        ⟨'\n', index, line, column⟩ :: ofText (index + 1) (line + 1) 0 rest
      else if Yaml.isBreak c then ⟨c, index, line, column⟩ :: ofText (index + 1) (line + 1) 0 rest
      else ⟨c, index, line, column⟩ :: ofText (index + 1) line (column + 1) rest

end Glyph

/-- The glyphs of a stream, unless it holds a character that it must not. -/
def glyphs? (source : List Char) : Option (List Glyph) :=
  if source.all isAllowed then some (Glyph.ofText 0 0 0 source) else none

/-- Whether nothing, a blank or a line break comes next. -/
def atGap : List Glyph → Bool
  | [] => true
  | glyph :: _ => glyph.isBlank || glyph.isBreak

/-- Whether the given character comes next. -/
def atChar (c : Char) : List Glyph → Bool
  | [] => false
  | glyph :: _ => glyph.char == c

/-- Whether the same mark three times fills the start of a line. -/
def atMark (mark : Char) : List Glyph → Bool
  | first :: second :: third :: rest =>
      first.column == 0 && first.char == mark && second.char == mark && third.char == mark &&
        atGap rest
  | _ => false

/-- Whether the start or the end of a document is marked. -/
def atDocumentMark (glyphs : List Glyph) : Bool := atMark '-' glyphs || atMark '.' glyphs

end MarkerReport.Yaml
