import MarkerReport.Python.Parser

/-! # String literals

A string ends at its quote. A line must not end inside a string with single quotes, except behind a
backslash or right at the start of a piece of its text. In an interpolating string a doubled brace
stands for a brace, and a single one opens an interpolation.
-/

namespace MarkerReport.Python

/-- What stops the text of a string. -/
inductive StringStop where
  /-- The closing quote, with the place behind it. -/
  | closed (behind : Cursor)
  /-- An opening brace, with its place. -/
  | brace (place : Cursor)
  /-- The end of the line or of the whole text, or a closing brace on its own. -/
  | broken
deriving Inhabited

namespace Literal

/-- Whether the first `count` characters of a text are there and are hexadecimal digits. -/
def hexDigits (count : Nat) (cs : List Char) : Bool :=
  (cs.take count).length == count && (cs.take count).all Number.isHexDigit

/-- How many characters an escape takes, given what follows its backslash. A backslash that starts
no escape stands alone. -/
def escapeLength : List Char → Nat
  | '\n' :: _ => 2
  | '\r' :: '\n' :: _ => 3
  | 'x' :: rest => if hexDigits 2 rest then 4 else 1
  | 'u' :: rest => if hexDigits 4 rest then 6 else 1
  | 'U' :: rest => if hexDigits 8 rest then 10 else 1
  | 'N' :: '\x7b' :: rest =>
      let name := rest.takeWhile (· != '\x7d')
      if name.isEmpty || name.length == rest.length then 1 else 4 + name.length
  | c :: rest =>
      if c.isDigit then 2 + ((rest.take 2).takeWhile Char.isDigit).length
      else if ['a', 'b', 'f', 'r', 'n', 't', 'v', '\\', '\'', '"'].contains c then 2
      else 1
  | [] => 1

/-- How many characters a backslash keeps from having a meaning in a raw string, given what follows
it, itself included. -/
def rawLength (quote : Char) (cs : List Char) : Nat :=
  let kept :=
    match cs with
    | c :: _ => if c == quote || c == '\\' then 1 else 0
    | [] => 0
  match cs.drop kept with
  | '\r' :: '\n' :: _ => kept + 3
  | '\r' :: _ => kept + 2
  | '\n' :: _ => kept + 2
  | _ => kept + 1

/-- Reads the text of a string up to what stops it. `begun` tells whether the current piece of text
has any characters yet. Each step takes at least one character, so `fuel` may be the length of the
text. -/
def readText (opening : Opening) : (fuel : Nat) → (begun : Bool) → Cursor → StringStop
  | 0, _, _ => .broken
  | fuel + 1, begun, cursor =>
      match cursor.rest with
      | [] => .broken
      | '\x00' :: _ => .broken
      | c :: rest =>
          if opening.format && c == '\x7b' then
            if rest.head? == some '\x7b' then readText opening fuel false (cursor.skip 2)
            else .brace cursor
          else if opening.format && c == '\x7d' then
            if rest.head? == some '\x7d' then readText opening fuel false (cursor.skip 2)
            else .broken
          else if c == '\\' && opening.raw then
            readText opening fuel begun (cursor.skip (rawLength opening.quote rest))
          else if c == '\\' then
            if opening.bytes && (rest.head?.any fun letter => ['N', 'u', 'U'].contains letter) then
              readText opening fuel true (cursor.skip 3)
            else readText opening fuel false (cursor.skip (escapeLength rest))
          else if c == opening.quote && !opening.triple then .closed (cursor.skip 1)
          else if c == opening.quote then
            match rest with
            | second :: third :: _ =>
                if second == c && third == c then .closed (cursor.skip 3)
                else if second == c then readText opening fuel false (cursor.skip 2)
                else readText opening fuel false (cursor.skip 1)
            | _ => .broken
          else if c == '\n' && begun && !opening.triple then .broken
          else readText opening fuel true cursor.next

end Literal

section

variable (self : ∀ {α : Type}, Goal α → Parser α)

open MarkerReport.Python.Parser

/-- The interpolations of a string, from the current place to its closing quote. -/
def stringContent (opening : Opening) : Parser (List SyntaxTree) :=
  many do
    let state ← get
    match Literal.readText opening (state.cursor.rest.length + 1) false state.cursor with
    | .closed behind =>
        set { state with cursor := behind, inFormat := false }
        return none
    | .brace place =>
        set { state with cursor := place }
        return some (← self .interpolation)
    | .broken => failure

/-- A string, whose opening was read last. -/
def stringLiteral (opening : Opening) : Parser SyntaxTree :=
  node .string do
    discard advance
    modify fun state => { state with inFormat := opening.format }
    stringContent self opening

/-- Strings next to each other, the first of which was read last. -/
def strings (opening : Opening) (context : Context) : Parser SyntaxTree := do
  let first ← stringLiteral self opening
  let later ← many do
    match ← peek (context.after true) with
    | .mark (.stringStart opening ..) => return some (← stringLiteral self opening)
    | _ => return none
  return if later.isEmpty then first else wrap .expression first later

/-- The part of an interpolation behind its colon: text and further interpolations, up to the
closing brace. -/
def formatSpecifier : Parser SyntaxTree :=
  node .expression do
    discard advance
    let parts ← many do
      let state ← get
      let cursor := state.cursor.skipWhile (· == '\n')
      match cursor.rest with
      | [] => failure
      | '\x7d' :: _ =>
          set { state with cursor }
          return none
      | '\x7b' :: _ =>
          set { state with cursor }
          return some [← self .interpolation]
      | _ =>
          let behind := cursor.skipWhile fun c => c != '\x7b' && c != '\x7d' && c != '\n'
          set { state with cursor := behind }
          return some []
    return parts.flatten

end

end MarkerReport.Python
