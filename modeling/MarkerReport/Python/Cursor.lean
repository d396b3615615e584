/-! # A place in a source text -/

namespace MarkerReport.Python

/-- A place in a source text: what follows it, and its row and column, both counted from zero.
Columns count bytes. -/
structure Cursor where
  rest : List Char
  row : Nat
  column : Nat
deriving Repr, Inhabited

namespace Cursor

/-- The start of a text. A byte order mark there is passed over. -/
def start : List Char → Cursor
  | '\ufeff' :: rest => ⟨rest, 0, Char.utf8Size '\ufeff'⟩
  | cs => ⟨cs, 0, 0⟩

/-- The place behind the next character. -/
def next (cursor : Cursor) : Cursor :=
  match cursor.rest with
  | [] => cursor
  | '\n' :: rest => ⟨rest, cursor.row + 1, 0⟩
  | c :: rest => ⟨rest, cursor.row, cursor.column + c.utf8Size⟩

/-- The place behind the next `count` characters. -/
def skip : Nat → Cursor → Cursor
  | 0, cursor => cursor
  | count + 1, cursor => skip count cursor.next

/-- The place behind the characters that satisfy `p`. -/
def skipWhile (p : Char → Bool) (cursor : Cursor) : Cursor :=
  cursor.skip (cursor.rest.takeWhile p).length

end Cursor

end MarkerReport.Python
