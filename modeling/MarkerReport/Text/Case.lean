import MarkerReport.Text.Folding
import MarkerReport.Text.Capitals

/-! # Upper and lower case

Two relations on text: agreement up to case, by which markers are recognised, and the upper-case
form, by which they are reported.
-/

namespace MarkerReport.Text

/-- The character that stands for a character and all its case variants. -/
def fold (c : Char) : Char :=
  match Shift.find? foldingShifts c.toNat with
  | some code => Char.ofNat code
  | none => c

/-- Two texts agree up to case when they fold to the same text. -/
def sameFolded (left right : List Char) : Bool := left.map fold == right.map fold

/-- The upper-case form of a character, which may take several characters. -/
def capitals (c : Char) : List Char :=
  match Shift.find? capitalShifts c.toNat with
  | some code => [Char.ofNat code]
  | none =>
      match capitalSequences.lookup c.toNat with
      | some codes => codes.map Char.ofNat
      | none => [c]

/-- The upper-case form of a text. -/
def upper (cs : List Char) : List Char := cs.flatMap capitals

/-- The ASCII letters in lower case, everything else as it is. -/
def asciiLower (text : String) : String := text.map Char.toLower

/-- Agreement up to the case of ASCII letters. -/
def sameAsciiFolded (left right : String) : Bool := asciiLower left == asciiLower right

end MarkerReport.Text
