import MarkerReport.Marker.Keywords
import MarkerReport.Text.Character
import MarkerReport.Text.Case

/-! # Occurrences of keywords in a text

Two searches are offered. `wholeWords` lists the occurrences that stand as words of their own, case
aside: a word boundary, that is a change between word characters and others, lies at both of their
ends. `first?` finds the first place where a keyword matches at all, be it inside a longer word.

Where several keywords match at one place, the earliest in the list is taken. Occurrences do not
overlap, and an empty occurrence never directly follows another occurrence.
-/

namespace MarkerReport

/-- An occurrence of a keyword in a text, by the offsets of its ends. -/
structure Occurrence where
  start : Nat
  word : List Char
deriving Repr, DecidableEq

namespace Occurrence

/-- The offset right behind the occurrence. -/
def stop (occurrence : Occurrence) : Nat := occurrence.start + occurrence.word.length

/-- Whether there is a character here, and a word character. -/
def wordAt : Option Char → Bool
  | some c => Text.isWord c
  | none => false

/-- Whether a word starts or ends between two neighbouring characters. -/
def isBoundary (before after : Option Char) : Bool := wordAt before != wordAt after

/-- The characters of a text that spell one of the keywords at its front, case aside. -/
def spelled? (spellings : List (List Char)) (cs : List Char) : Option (List Char) :=
  spellings.findSome? fun spelling =>
    let word := cs.take spelling.length
    if Text.sameFolded word spelling then some word else none

/-- The characters of a text that spell one of the keywords at its front as a word of its own.
`before` is the character that precedes the text. -/
def wholeWord? (spellings : List (List Char)) (before : Option Char) (cs : List Char) :
    Option (List Char) :=
  if isBoundary before cs.head? then
    spellings.findSome? fun spelling =>
      let word := cs.take spelling.length
      if Text.sameFolded word spelling &&
          isBoundary (word.getLast?.or before) (cs.drop spelling.length).head? then
        some word
      else none
  else none

/-- The whole-word occurrences in the rest `cs` of a text. `offset` is the offset of the rest,
`before` the character that precedes it, and `follows` tells whether an occurrence ends right
before it. -/
def wholeWordsFrom (spellings : List (List Char)) (before : Option Char) (offset : Nat)
    (follows : Bool) (cs : List Char) : List Occurrence :=
  match cs with
  | [] =>
      if !follows && (wholeWord? spellings before []).isSome then [⟨offset, []⟩] else []
  | c :: rest =>
      match wholeWord? spellings before (c :: rest) with
      | none => wholeWordsFrom spellings (some c) (offset + 1) false rest
      | some [] =>
          if follows then wholeWordsFrom spellings (some c) (offset + 1) false rest
          else ⟨offset, []⟩ :: wholeWordsFrom spellings before offset true (c :: rest)
      | some (d :: word) =>
          ⟨offset, d :: word⟩ :: wholeWordsFrom spellings ((d :: word).getLast?)
            (offset + (d :: word).length) true (rest.drop word.length)
termination_by (cs.length, if follows then 0 else 1)
decreasing_by
  · exact Prod.Lex.left _ _ (by simp)
  · exact Prod.Lex.left _ _ (by simp)
  · simp_all [Prod.lex_def]
  · exact Prod.Lex.left _ _ (by rw [List.length_drop, List.length_cons]; omega)

/-- The occurrences of the keywords as words of their own, in order. -/
def wholeWords (keywords : Keywords) (cs : List Char) : List Occurrence :=
  wholeWordsFrom keywords.spellings none 0 false cs

/-- The first place where a keyword matches, whether or not as a word of its own. -/
def firstFrom? (spellings : List (List Char)) (offset : Nat) (cs : List Char) :
    Option Occurrence :=
  match spelled? spellings cs with
  | some word => some ⟨offset, word⟩
  | none =>
      match cs with
      | [] => none
      | _ :: rest => firstFrom? spellings (offset + 1) rest

/-- The first occurrence of a keyword in a text. -/
def first? (keywords : Keywords) (cs : List Char) : Option Occurrence :=
  firstFrom? keywords.spellings 0 cs

end Occurrence

end MarkerReport
