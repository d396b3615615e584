import MarkerReport.Python.Cursor

/-! # Line structure

Indentation is read on demand. Before each token the parser says which marks of the line structure
it could use here, and the text between the last token and the next one is searched for them. A line
end at which no mark is of use is an ordinary blank, so an unfinished statement runs on over line
ends.

The open blocks are a stack of indentation widths. A line that is indented more deeply than the
innermost block opens a block where the parser can use one. A line that is indented less deeply
closes the innermost block, also where the parser cannot use that, unless a closing bracket may come
next.
-/

namespace MarkerReport.Python

/-- What may come next, as far as the reading of line ends and quotes depends on it. -/
structure Expect where
  /-- A statement may end. -/
  newline : Bool := false
  /-- A block may open. -/
  indent : Bool := false
  /-- A block may end. -/
  dedent : Bool := false
  /-- A string may start. -/
  string : Bool := false
  /-- A closing bracket may come. -/
  close : Bool := false
  /-- An exception handler may come. -/
  handler : Bool := false
deriving Repr, Inhabited

namespace Expect

/-- Only an operand may come next. -/
def operand : Expect := { string := true }

/-- Nothing but plain tokens may come next. -/
def plain : Expect := {}

/-- Whether comments on lines of their own are passed over in search of the line structure. -/
def passesComments (expect : Expect) : Bool :=
  expect.indent || expect.dedent || expect.newline || expect.handler

end Expect

/-- How a string is written. -/
structure Opening where
  quote : Char
  /-- The quote is written three times. -/
  triple : Bool
  /-- Expressions in braces are interpolated. -/
  format : Bool
  /-- A backslash stands for itself. -/
  raw : Bool
  bytes : Bool
deriving Repr, Inhabited, DecidableEq

/-- The blank text before a token. -/
structure Margin where
  /-- A line ends in it. -/
  lineEnd : Bool
  /-- The width of the indentation of the last line in it. -/
  width : Nat
  /-- The width of the indentation of the first comment passed over. -/
  comment : Option Nat
  /-- Where it ends. -/
  stop : Cursor
deriving Repr, Inhabited

namespace Margin

/-- Reads the margin at a cursor. `inComment` tells whether the cursor is in a comment that is
passed over. There is none to speak of where a comment follows a token on its line or where a
backslash does not end a line. -/
def read (passesComments : Bool) (inComment : Bool) (lineEnd : Bool) (width : Nat)
    (comment : Option Nat) (cs : List Char) (cursor : Cursor) : Option Margin :=
  match cs with
  | [] => some ⟨true, 0, comment, cursor⟩
  | '\n' :: rest => read passesComments false true 0 comment rest cursor.next
  | c :: rest =>
      if inComment then read passesComments true lineEnd width comment rest cursor.next
      else if c == ' ' then read passesComments false lineEnd (width + 1) comment rest cursor.next
      else if c == '\t' then read passesComments false lineEnd (width + 8) comment rest cursor.next
      else if c == '\r' || c == '\x0c' then
        read passesComments false lineEnd 0 comment rest cursor.next
      else if c == '#' && passesComments then
        if lineEnd then
          read passesComments true lineEnd width (comment.or (some width)) rest cursor.next
        else none
      else if c == '\\' then
        match rest with
        | [] => some ⟨true, 0, comment, cursor.next⟩
        | ['\r'] => some ⟨true, 0, comment, cursor.next.next⟩
        | '\n' :: later => read passesComments false lineEnd width comment later cursor.next.next
        | '\r' :: '\n' :: later =>
            read passesComments false lineEnd width comment later cursor.next.next.next
        | _ => none
      else some ⟨lineEnd, width, comment, cursor⟩

end Margin

/-- A mark of the line structure, or the start of a string. -/
inductive Mark where
  | newline
  /-- A block indented to the given width opens. -/
  | indent (width : Nat)
  | dedent
  /-- A string opens at the cursor `start`, and its content starts at `stop`. -/
  | stringStart (opening : Opening) (start stop : Cursor)
deriving Repr, Inhabited

namespace Mark

/-- Whether a letter may stand before the quote of a string. -/
def isStringLetter (c : Char) : Bool :=
  match c.toLower with
  | 'f' | 't' | 'r' | 'b' | 'u' => true
  | _ => false

/-- The start of a string at a cursor. -/
def stringStart? (cursor : Cursor) : Option Mark :=
  let letters := (cursor.rest.takeWhile isStringLetter).map Char.toLower
  let opening (quote : Char) (triple : Bool) : Opening :=
    ⟨quote, triple, letters.contains 'f' || letters.contains 't', letters.contains 'r',
      letters.contains 'b'⟩
  let quoted := cursor.skip letters.length
  match quoted.rest with
  | '\x60' :: _ => some (.stringStart (opening '\x60' false) cursor (quoted.skip 1))
  | '\'' :: '\'' :: '\'' :: _ => some (.stringStart (opening '\'' true) cursor (quoted.skip 3))
  | '\'' :: _ => some (.stringStart (opening '\'' false) cursor (quoted.skip 1))
  | '"' :: '"' :: '"' :: _ => some (.stringStart (opening '"' true) cursor (quoted.skip 3))
  | '"' :: _ => some (.stringStart (opening '"' false) cursor (quoted.skip 1))
  | _ => none

/-- Whether a text starts with a quote. -/
def startsWithQuote : List Char → Bool
  | c :: _ => c == '"' || c == '\'' || c == '\x60'
  | [] => false

/-- The mark at a cursor, if there is one that is of use or that closes a block. `blocks` are the
widths of the open blocks, innermost first, and `inFormat` tells whether an interpolating string was
opened last. -/
def read? (expect : Expect) (blocks : List Nat) (inFormat : Bool) (cursor : Cursor) :
    Option Mark :=
  match Margin.read expect.passesComments false false 0 none cursor.rest cursor with
  | none => none
  | some margin =>
      let current := blocks.headD 0
      let quoteNext := expect.string && startsWithQuote margin.stop.rest
      let mayClose := expect.dedent || (!expect.newline && !quoteNext && !expect.close)
      let commentOutside := margin.comment.all (· < current)
      if margin.lineEnd && expect.indent && current < margin.width then some (.indent margin.width)
      else if margin.lineEnd && mayClose && margin.width < current && !inFormat &&
          commentOutside then
        some .dedent
      else if margin.lineEnd && expect.newline then some .newline
      else if margin.comment.isNone && expect.string then stringStart? margin.stop
      else none

end Mark

end MarkerReport.Python
