import MarkerReport.Comment.Scan
import MarkerReport.Marker.Occurrence

/-! # Findings

A finding is a marker in a source text: the line it is attributed to, the keyword in upper case, and
the text that follows it. Two policies decide what counts.

* Under `Policy.comment` every keyword that stands as a word of its own in a comment counts,
  whatever its case. It is attributed to the line on which the comment opens, and its text ends at
  the next keyword of the comment or at the end of the line.
* Under `Policy.line` comments play no part. The first keyword of each line counts, and only if it
  starts with an upper-case letter; its text is the rest of the line.
-/

namespace MarkerReport

/-- What counts as a marker. -/
inductive Policy where
  /-- Keywords inside comments, in any case, as many as there are. -/
  | comment
  /-- The first keyword of each line, with an upper-case initial. -/
  | line
deriving Repr, DecidableEq, Inhabited

/-- A marker found in a source text. -/
structure Finding where
  /-- The line, counted from one, that the marker is attributed to. -/
  line : Nat
  /-- The keyword as written, in upper case. -/
  kind : String
  /-- What the marker says. -/
  text : String
deriving Repr, DecidableEq, Inhabited

namespace Finding

/-- A finding for a keyword as written in the source. -/
def ofWord (line : Nat) (word text : List Char) : Finding :=
  ⟨line, String.ofList (Text.upper word), String.ofList text⟩

/-- Whether a character separates a keyword in a comment from its text. -/
def isCommentSeparator (c : Char) : Bool := c == ':' || c == '-' || Text.isBlank c

/-- Whether a character separates a keyword on a line from its text. -/
def isLineSeparator (c : Char) : Bool := c == ':' || c == ',' || c == '-' || Text.isBlank c

/-- Removes `*/` at the end of a text, with the blanks before it. -/
def dropClose (cs : List Char) : List Char :=
  match cs.reverse with
  | '/' :: '*' :: before => (before.dropWhile Text.isBlank).reverse
  | _ => cs

/-- What a keyword in a comment says, given the text between it and the next keyword or the end of
the comment. -/
def commentText (segment : List Char) (isLast : Bool) : List Char :=
  let body := Text.dropBlanksEnd ((Comment.untilFeed segment).dropWhile isCommentSeparator)
  if isLast then dropClose body else body

/-- The findings for the occurrences in the text of a comment. -/
def ofOccurrences (line : Nat) (text : List Char) : List Occurrence → List Finding
  | [] => []
  | [hit] => [ofWord line hit.word (commentText (text.drop hit.stop) true)]
  | hit :: next :: later =>
      ofWord line hit.word
          (commentText ((text.drop hit.stop).take (next.start - hit.stop)) false) ::
        ofOccurrences line text (next :: later)

/-- The findings in a comment. -/
def inComment (keywords : Keywords) (comment : Comment) : List Finding :=
  ofOccurrences comment.line comment.text (Occurrence.wholeWords keywords comment.text)

/-- The finding on a line, if it has one. -/
def onLine? (keywords : Keywords) (number : Nat) (line : List Char) : Option Finding :=
  match Occurrence.first? keywords line with
  | none => none
  | some hit =>
      match hit.word with
      | [] => none
      | initial :: _ =>
          if Text.isUppercase initial then
            some (ofWord number hit.word
              (Text.trimBlanks ((line.drop hit.stop).dropWhile isLineSeparator)))
          else none

/-- The findings on successive lines, the first of which has the given number. -/
def onLinesFrom (keywords : Keywords) : Nat → List (List Char) → List Finding
  | _, [] => []
  | number, line :: later =>
      (onLine? keywords number line).toList ++ onLinesFrom keywords (number + 1) later

/-- The findings of a source text under the comment policy. -/
def inComments (keywords : Keywords) (source : List Char) : List Finding :=
  (Comment.scan source).flatMap (inComment keywords)

/-- The findings of a source text under the line policy. -/
def onLines (keywords : Keywords) (source : List Char) : List Finding :=
  onLinesFrom keywords 1 (Text.lines source)

/-- The findings of a source text, in order. -/
def extract (policy : Policy) (keywords : Keywords) (source : List Char) : List Finding :=
  match policy with
  | .comment => inComments keywords source
  | .line => onLines keywords source

end Finding

end MarkerReport
