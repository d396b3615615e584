import MarkerReport.Text.Alphabetic
import MarkerReport.Text.Mark
import MarkerReport.Text.Number
import MarkerReport.Text.Uppercase

/-! # Classes of characters

The classes that the scanner reads text by: blanks, word characters, letters and digits, and
upper-case letters. All of them range over the whole of Unicode.
-/

namespace MarkerReport.Text

/-- The stretches of blank code points. -/
def blankRanges : Ranges :=
  [(0x9, 0xd), (0x20, 0x20), (0x85, 0x85), (0xa0, 0xa0), (0x1680, 0x1680), (0x2000, 0x200a),
    (0x2028, 0x2029), (0x202f, 0x202f), (0x205f, 0x205f), (0x3000, 0x3000)]

/-- The stretches of connector punctuation, of which the underscore is the first. -/
def connectorRanges : Ranges :=
  [(0x5f, 0x5f), (0x203f, 0x2040), (0x2054, 0x2054), (0xfe33, 0xfe34), (0xfe4d, 0xfe4f),
    (0xff3f, 0xff3f)]

/-- The two characters that join or separate letters without being seen. -/
def joinerRanges : Ranges := [(0x200c, 0x200d)]

/-- A blank: a space of any width, a tab, or a line or paragraph break. -/
def isBlank (c : Char) : Bool := blankRanges.contains c.toNat

/-- A character with the property Alphabetic. -/
def isAlphabetic (c : Char) : Bool := alphabeticRanges.contains c.toNat

/-- A combining mark. -/
def isMark (c : Char) : Bool := markRanges.contains c.toNat

/-- A word character: a letter, a combining mark, a decimal digit, a connector such as the
underscore, or a joiner. Markers are found as whole words of such characters. -/
def isWord (c : Char) : Bool :=
  isAlphabetic c || isMark c || decimalRanges.contains c.toNat ||
    connectorRanges.contains c.toNat || joinerRanges.contains c.toNat

/-- A letter or a number of any kind. -/
def isAlphanumeric (c : Char) : Bool := isAlphabetic c || numberRanges.contains c.toNat

/-- A character with the property Uppercase. -/
def isUppercase (c : Char) : Bool := Run.anyContains uppercaseRuns c.toNat

/-- Drops the blanks at the front. -/
def dropBlanks (cs : List Char) : List Char := cs.dropWhile isBlank

/-- Drops the characters at the end that satisfy `p`. -/
def dropWhileEnd (p : Char → Bool) (cs : List Char) : List Char := (cs.reverse.dropWhile p).reverse

/-- Drops the blanks at the end. -/
def dropBlanksEnd (cs : List Char) : List Char := dropWhileEnd isBlank cs

/-- Drops the blanks at both ends. -/
def trimBlanks (cs : List Char) : List Char := dropBlanksEnd (dropBlanks cs)

end MarkerReport.Text
