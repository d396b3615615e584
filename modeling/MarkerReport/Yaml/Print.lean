import MarkerReport.Yaml.Number

/-! # Scalars written as YAML

A text is written as a plain scalar where that is clear, in single quotes where it is not, and in
double quotes where characters have to be escaped. A text with line feeds is written as a literal
block.
-/

namespace MarkerReport.Yaml

/-- Whether a character is written as it is. -/
def isPrintable (c : Char) : Bool :=
  c == '\n' || (' ' ≤ c && c ≤ '~') ||
    ('\u00A0' ≤ c && c ≤ '\uFFFD' && c != byteOrderMark) || 0x10000 ≤ c.toNat

/-- Whether a character is a blank or a line break. -/
def isGapChar (c : Char) : Bool := isBlank c || isBreak c || c == '\r' || c == '\u0085'

/-- Whether the first character of a text has a meaning of its own in front of what follows it. -/
def startsIndicator (text : List Char) : Bool :=
  match text with
  | [] => false
  | first :: rest =>
      ['#', ',', '[', ']', '\x7b', '\x7d', '&', '*', '!', '|', '>', '\'', '"', '%', '@',
        '\x60'].contains first ||
        (['?', ':', '-'].contains first && rest.head?.all isGapChar) ||
        "---".toList.isPrefixOf text || "...".toList.isPrefixOf text

/-- Whether a colon in front of a gap or a number sign behind one stands among the characters behind
the given one. -/
def holdsIndicator (previous : Char) : List Char → Bool
  | [] => false
  | c :: rest =>
      (c == ':' && rest.head?.all isGapChar) || (c == '#' && isGapChar previous) ||
        holdsIndicator c rest

/-- Whether a character with one property comes right before one with another. -/
def hasPair (left right : Char → Bool) : List Char → Bool
  | first :: second :: rest => (left first && right second) || hasPair left right (second :: rest)
  | _ => false

/-- Whether a text has no blank and no line break at its ends. -/
def isTrimmed (text : List Char) : Bool :=
  !text.head?.any (fun c => c == ' ' || isBreak c) &&
    !text.getLast?.any (fun c => c == ' ' || isBreak c)

/-- Whether a character has to be escaped, or a blank stands in front of a line break. -/
def needsEscape (text : List Char) : Bool :=
  text.any (fun c => !isPrintable c) || hasPair (· == ' ') isBreak text

/-- Whether a text can be written as a plain scalar. -/
def allowsPlain (text : List Char) : Bool :=
  isTrimmed text && !needsEscape text && !text.any isBreak && !startsIndicator text &&
    match text with
    | [] => true
    | first :: rest => !holdsIndicator first rest

/-- Whether a text can be written in single quotes. -/
def allowsSingle (text : List Char) : Bool :=
  !needsEscape text && !hasPair isBreak (· == ' ') text

/-- Whether a text can be written as a block. -/
def allowsBlock (text : List Char) : Bool :=
  !text.isEmpty && !needsEscape text && text.getLast? != some ' '

/-- The style in which a text is written. -/
def styleFor (text : String) : ScalarStyle :=
  let characters := text.toList
  if characters.contains '\n' then if allowsBlock characters then .literal else .doubleQuoted
  else if !isAmbiguous text && allowsPlain characters then .plain
  else if allowsSingle characters then .singleQuoted
  else .doubleQuoted

/-- The blanks in front of the lines of a scalar. -/
def indentation : List Char := [' ', ' ']

/-- The lines of a scalar in single quotes. `broken` tells whether a line break comes before them.
-/
def singleBody (broken : Bool) : List Char → List Char
  | [] => if broken then indentation else []
  | c :: rest =>
      if isBreak c then c :: singleBody true rest
      else if c = ' ' then c :: singleBody broken rest
      else
        (if broken then indentation else []) ++ (if c = '\'' then ['\'', '\''] else [c]) ++
          singleBody false rest

/-- A text in single quotes. -/
def printSingle (text : List Char) : List Char := '\'' :: singleBody false text ++ ['\'']

/-- A digit of a character code. -/
def codeDigit (n : Nat) : Char := if n < 10 then Char.ofNat (48 + n) else Char.ofNat (55 + n)

/-- The digits of a character code, the last `length` of them. -/
def codeDigits (code : Nat) : (length : Nat) → List Char
  | 0 => []
  | length + 1 => codeDigits (code / 16) length ++ [codeDigit (code % 16)]

/-- The letter that stands behind a backslash for a character. -/
def escapeLetter? : Char → Option Char
  | '\x00' => some '0'
  | '\x07' => some 'a'
  | '\x08' => some 'b'
  | '\t' => some 't'
  | '\n' => some 'n'
  | '\x0b' => some 'v'
  | '\x0c' => some 'f'
  | '\r' => some 'r'
  | '\x1b' => some 'e'
  | '"' => some '"'
  | '\\' => some '\\'
  | '\u0085' => some 'N'
  | '\u2028' => some 'L'
  | '\u2029' => some 'P'
  | _ => none

/-- The characters that stand for a character in double quotes. -/
def escape (c : Char) : List Char :=
  match escapeLetter? c with
  | some letter => ['\\', letter]
  | none =>
      if isPrintable c then [c]
      else if c.toNat ≤ 0xFF then '\\' :: 'x' :: codeDigits c.toNat 2
      else if c.toNat ≤ 0xFFFF then '\\' :: 'u' :: codeDigits c.toNat 4
      else '\\' :: 'U' :: codeDigits c.toNat 8

/-- A text in double quotes. -/
def printDouble (text : List Char) : List Char := '"' :: text.flatMap escape ++ ['"']

/-- The indicators of a literal block. The indentation is given if the text starts with a blank or a
line break; a sign tells whether the text ends in no line break or in more than one. -/
def blockHints (text : List Char) : List Char :=
  (if text.head?.any (fun c => c == ' ' || isBreak c) then ['2'] else []) ++
    match text.reverse with
    | [] => ['-']
    | last :: earlier =>
        if !isBreak last then ['-'] else if earlier.head?.all isBreak then ['+'] else []

/-- The lines of a literal block. `fresh` tells whether a line starts here. -/
def literalBody (fresh : Bool) : List Char → List Char
  | [] => []
  | c :: rest =>
      if isBreak c then c :: literalBody true rest
      else (if fresh then indentation else []) ++ c :: literalBody false rest

/-- A text as a literal block. -/
def printLiteral (text : List Char) : List Char :=
  '|' :: blockHints text ++ '\n' :: literalBody true text

/-- A text as a scalar in the style that fits it. -/
def printScalar (text : String) : List Char :=
  match styleFor text with
  | .plain => text.toList
  | .singleQuoted => printSingle text.toList
  | .literal => printLiteral text.toList
  | _ => printDouble text.toList

/-- Ends a line, unless it has ended already. -/
def endLine (printed : List Char) : List Char :=
  if printed.getLast?.any isBreak then printed else printed ++ ['\n']

/-- An entry of a block sequence. -/
def printEntry (text : String) : List Char := endLine ('-' :: ' ' :: printScalar text)

/-- A sequence of texts under a key. -/
def printSequence (key : String) (texts : List String) : List Char :=
  key.toList ++
    if texts.isEmpty then ": []\n".toList else ':' :: '\n' :: texts.flatMap printEntry

/-- A text under a key. -/
def printField (key text : String) : List Char := key.toList ++ ':' :: ' ' :: text.toList ++ ['\n']

end MarkerReport.Yaml
