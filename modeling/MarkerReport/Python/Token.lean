import MarkerReport.Python.Layout
import MarkerReport.Scope.Tree
import MarkerReport.Text.Character

/-! # Tokens

A token is a mark of the line structure, a word, a number, an operator or bracket, or the end of the
text. Between tokens stand blanks, comments and continued lines; comments and continuations are kept
as nodes of the syntax tree.
-/

namespace MarkerReport.Python

/-- A token of a source text. -/
inductive Token where
  | mark (mark : Mark)
  /-- A keyword or an identifier. -/
  | word (text : String)
  | number
  | operator (text : String)
  /-- An exclamation mark and a letter, which choose how an interpolated value is converted. -/
  | conversion
  | endOfText
  /-- A character that starts no token. -/
  | unknown
deriving Repr, Inhabited

/-- A token with its place. -/
structure Lexeme where
  token : Token
  row : Nat
  column : Nat
  /-- The place behind the token. -/
  stop : Cursor
deriving Repr, Inhabited

/-- Stretches of letters that cannot start a name: compatibility forms and enclosed letters. -/
def outsideNameStart : Text.Ranges :=
  [(0x37a, 0x37a), (0xe33, 0xe33), (0xeb3, 0xeb3), (0x24b6, 0x24e9), (0x2e2f, 0x2e2f),
    (0xfc5e, 0xfc63), (0xfdfa, 0xfdfb), (0xfe70, 0xfe70), (0xfe72, 0xfe72), (0xfe74, 0xfe74),
    (0xfe76, 0xfe76), (0xfe78, 0xfe78), (0xfe7a, 0xfe7a), (0xfe7c, 0xfe7c), (0xfe7e, 0xfe7e),
    (0xff9e, 0xff9f), (0x1f130, 0x1f149), (0x1f150, 0x1f169), (0x1f170, 0x1f189)]

/-- Stretches of word characters that cannot continue a name. -/
def outsideName : Text.Ranges :=
  [(0x37a, 0x37a), (0x488, 0x489), (0x1abe, 0x1abe), (0x200c, 0x200d), (0x20dd, 0x20e0),
    (0x20e2, 0x20e4), (0x24b6, 0x24e9), (0x2e2f, 0x2e2f), (0xa670, 0xa672), (0xfc5e, 0xfc63),
    (0xfdfa, 0xfdfb), (0xfe70, 0xfe70), (0xfe72, 0xfe72), (0xfe74, 0xfe74), (0xfe76, 0xfe76),
    (0xfe78, 0xfe78), (0xfe7a, 0xfe7a), (0xfe7c, 0xfe7c), (0xfe7e, 0xfe7e), (0x1f130, 0x1f149),
    (0x1f150, 0x1f169), (0x1f170, 0x1f189)]

/-- Whether a character can start a name. -/
def startsName (c : Char) : Bool :=
  c == '_' ||
    (Text.isAlphabetic c && !Text.isMark c && !outsideNameStart.contains c.toNat) ||
    Text.Ranges.contains [(0x1885, 0x1886), (0x2118, 0x2118), (0x212e, 0x212e)] c.toNat

/-- Whether a character can continue a name. -/
def continuesName (c : Char) : Bool :=
  (Text.isWord c && !outsideName.contains c.toNat) ||
    Text.Ranges.contains [(0xb7, 0xb7), (0x387, 0x387), (0x1369, 0x1371), (0x19da, 0x19da),
      (0x2118, 0x2118), (0x212e, 0x212e), (0x30fb, 0x30fb), (0xff65, 0xff65)] c.toNat

/-- Whether a character separates tokens: a blank or a character of no width. -/
def isSeparator (c : Char) : Bool :=
  Text.isBlank c || c == '\u200b' || c == '\u2060' || c == '\ufeff'

namespace Number

/-- How many characters a group of digits takes, where an underscore may follow each digit. -/
def groupedLength (isDigit : Char → Bool) : List Char → Nat
  | [] => 0
  | c :: '_' :: rest => if isDigit c then 2 + groupedLength isDigit rest else 0
  | c :: rest => if isDigit c then 1 + groupedLength isDigit rest else 0

/-- How many characters a group of digits takes, where an underscore may precede each digit. -/
def prefixedLength (isDigit : Char → Bool) : List Char → Nat
  | [] => 0
  | '_' :: c :: rest => if isDigit c then 2 + prefixedLength isDigit rest else 0
  | c :: rest => if isDigit c then 1 + prefixedLength isDigit rest else 0

def isHexDigit (c : Char) : Bool :=
  c.isDigit || ('a' ≤ c && c ≤ 'f') || ('A' ≤ c && c ≤ 'F')

def isOctalDigit (c : Char) : Bool := '0' ≤ c && c ≤ '7'

def isBinaryDigit (c : Char) : Bool := c == '0' || c == '1'

/-- One when the text starts with one of the letters, else zero. -/
def letterLength (letters : List Char) : List Char → Nat
  | c :: _ => if letters.contains c then 1 else 0
  | [] => 0

/-- How many characters the exponent at the start of a text takes. -/
def exponentLength : List Char → Nat
  | c :: rest =>
      if c == 'e' || c == 'E' then
        let sign := letterLength ['+', '-'] rest
        let digits := groupedLength Char.isDigit (rest.drop sign)
        if digits = 0 then 0 else 1 + sign + digits
      else 0
  | [] => 0

/-- How many characters the number in another base takes that a text starts with, after the zero and
the letter that name the base. -/
def basedLength (isDigit : Char → Bool) (cs : List Char) : Nat :=
  let digits := prefixedLength isDigit cs
  if digits = 0 then 0 else 2 + digits + letterLength ['l', 'L'] (cs.drop digits)

/-- How many characters the decimal number at the start of a text takes. -/
def decimalLength (cs : List Char) : Nat :=
  let whole := groupedLength Char.isDigit cs
  match cs.drop whole with
  | '.' :: after =>
      let fraction := groupedLength Char.isDigit after
      if whole = 0 && fraction = 0 then 0
      else
        let exponent := exponentLength (after.drop fraction)
        let mantissa := whole + 1 + fraction + exponent
        mantissa + letterLength ['j', 'J'] (cs.drop mantissa)
  | after =>
      if whole = 0 then 0
      else
        let exponent := exponentLength after
        if exponent = 0 then whole + letterLength ['l', 'L', 'j', 'J'] after
        else whole + exponent + letterLength ['j', 'J'] (after.drop exponent)

/-- How many characters the number at the start of a text takes; zero if there is none. -/
def length (cs : List Char) : Nat :=
  let based :=
    match cs with
    | '0' :: base :: after =>
        if base == 'x' || base == 'X' then basedLength isHexDigit after
        else if base == 'o' || base == 'O' then basedLength isOctalDigit after
        else if base == 'b' || base == 'B' then basedLength isBinaryDigit after
        else 0
    | _ => 0
  if based = 0 then decimalLength cs else based

end Number

/-- The operators and brackets, longer ones before their beginnings. -/
def operators : List String :=
  ["...", "**=", "//=", "<<=", ">>=", "->", ":=", "**", "//", "<<", ">>", "<=", ">=", "==", "!=",
    "<>", "+=", "-=", "*=", "/=", "%=", "@=", "&=", "|=", "^=", "(", ")", "[", "]", "\x7b", "\x7d",
    ",", ":", ".", ";", "@", "=", "+", "-", "*", "/", "%", "&", "|", "^", "~", "<", ">"]

/-- The operator that a text starts with. -/
def operator? (cs : List Char) : Option String :=
  operators.find? fun operator => operator.toList.isPrefixOf cs

/-- The plain token at a cursor that stands at no separator. -/
def plainLexeme (cursor : Cursor) : Lexeme :=
  let lexeme (token : Token) (length : Nat) : Lexeme :=
    ⟨token, cursor.row, cursor.column, cursor.skip length⟩
  match cursor.rest with
  | [] => lexeme .endOfText 0
  | c :: rest =>
      if startsName c then
        let name := c :: rest.takeWhile continuesName
        lexeme (.word (String.ofList name)) name.length
      else
        let digits := Number.length cursor.rest
        if digits != 0 then lexeme .number digits
        else
          match operator? cursor.rest, rest with
          | some operator, _ => lexeme (.operator operator) operator.length
          | none, letter :: _ =>
              if c == '!' && 'a' ≤ letter && letter ≤ 'z' then lexeme .conversion 2
              else lexeme .unknown 0
          | none, [] => lexeme .unknown 0

/-- What stands at a cursor between tokens, behind separators: a comment or the backslash that
continues a line, with the place behind it. -/
def trivia? (cursor : Cursor) : Option (SyntaxTree × Cursor) :=
  let trivium (kind : NodeKind) (stop : Cursor) : Option (SyntaxTree × Cursor) :=
    some (.node kind cursor.row cursor.column none [], stop)
  match cursor.rest with
  | '#' :: _ => trivium .comment (cursor.skipWhile (· != '\n'))
  | ['\\'] => trivium .continuation (cursor.skip 1)
  | '\\' :: '\n' :: _ => trivium .continuation (cursor.skip 2)
  | '\\' :: '\r' :: '\n' :: _ => trivium .continuation (cursor.skip 3)
  | _ => none

/-- Reads the token at a cursor, with the comments and continuations before it, last one first.
`fuel` bounds how many of them are passed over. -/
def readLexeme (expect : Expect) (blocks : List Nat) (inFormat : Bool) :
    (fuel : Nat) → List SyntaxTree → Cursor → Lexeme × List SyntaxTree
  | fuel, passed, cursor =>
      match Mark.read? expect blocks inFormat cursor with
      | some (.stringStart opening start stop) =>
          (⟨.mark (.stringStart opening start stop), start.row, start.column, stop⟩, passed)
      | some mark => (⟨.mark mark, cursor.row, cursor.column, cursor⟩, passed)
      | none =>
          let word := cursor.skipWhile isSeparator
          match trivia? word, fuel with
          | some (trivium, behind), fuel + 1 =>
              readLexeme expect blocks inFormat fuel (trivium :: passed) behind
          | _, _ => (plainLexeme word, passed)

end MarkerReport.Python
