import Mathlib.Data.List.DropRight
import MarkerReport.Proofs.Comment.Grammar
import MarkerReport.Proofs.Marker.Occurrences
import MarkerReport.Proofs.Text.Returns
import MarkerReport.Settings

/-! # Findings and carriage returns

Keywords of valid settings hold no line break. They occur at the same places of two texts that
differ only in carriage returns at the ends of lines, and each occurrence is followed by texts that
again differ only so. What a keyword says ends with its line and without blanks, of which a carriage
return is one. Hence a comment has the same findings with and without carriage returns
(`MarkerReport.Finding.inComment_of_returned`).
-/

namespace MarkerReport.Occurrence

open Text (Returned)

/-- No spelling is empty or holds a line break. -/
def Unbroken (spellings : List (List Char)) : Prop :=
  ∀ spelling ∈ spellings, spelling ≠ [] ∧ '\r' ∉ spelling ∧ '\n' ∉ spelling

/-- A return put before a feed changes nothing about the word character that follows a place. -/
theorem wordAt_head?_of_returned {left right : List Char} (returned : Returned left right) :
    wordAt left.head? = wordAt right.head? := by
  cases returned with
  | nil => rfl
  | ending => decide
  | cons c rest => rfl
  | feed rest =>
      change Text.isWord '\n' = Text.isWord '\r'
      decide

/-- A search through the spellings depends on their outcomes only. -/
theorem findSome?_congr_of_mem {spellings : List (List Char)}
    {first second : List Char → Option (List Char)}
    (same : ∀ spelling ∈ spellings, first spelling = second spelling) :
    spellings.findSome? first = spellings.findSome? second := by
  induction spellings with
  | nil => rfl
  | cons spelling later ih =>
      rw [List.findSome?_cons, List.findSome?_cons, same spelling List.mem_cons_self,
        ih fun other member => same other (List.mem_cons_of_mem _ member)]

section

variable {spellings : List (List Char)} (unbroken : Unbroken spellings)

include unbroken

/-- The same keyword is found at the head of a line with and without returns. -/
theorem spelled?_of_returned {left right : List Char} (returned : Returned left right) :
    spelled? spellings left = spelled? spellings right := by
  apply findSome?_congr_of_mem
  intro spelling member
  obtain ⟨-, unreturned, feedless⟩ := unbroken spelling member
  rcases returned.sameFolded_take unreturned feedless with
    ⟨word, leftRest, rightRest, rfl, rfl, length, -, -⟩ | ⟨neither, nor⟩
  · rw [← length, List.take_left, List.take_left]
  · simp only [neither, nor, Bool.false_eq_true, ↓reduceIte]

/-- The same keyword stands at the front of both texts as a word of its own. -/
theorem wholeWord?_of_returned {left right : List Char} {before other : Option Char}
    (returned : Returned left right) (same : wordAt before = wordAt other) :
    wholeWord? spellings before left = wholeWord? spellings other right := by
  have opens : isBoundary before left.head? = isBoundary other right.head? := by
    rw [isBoundary, isBoundary, same, wordAt_head?_of_returned returned]
  unfold wholeWord?
  rw [opens, findSome?_congr_of_mem]
  intro spelling member
  obtain ⟨nonempty, unreturned, feedless⟩ := unbroken spelling member
  rcases returned.sameFolded_take unreturned feedless with
    ⟨word, leftRest, rightRest, rfl, rfl, length, agrees, rest⟩ | ⟨neither, nor⟩
  · have occupied := Text.ne_nil_of_sameFolded agrees nonempty
    have closes : isBoundary (word.getLast?.or before) leftRest.head? =
        isBoundary (word.getLast?.or other) rightRest.head? := by
      rw [List.getLast?_eq_some_getLast occupied, Option.some_or, Option.some_or, isBoundary,
        isBoundary, wordAt_head?_of_returned rest]
    simp only [← length, List.take_left, List.drop_left, closes]
  · simp only [neither, nor, Bool.false_and, Bool.false_eq_true, ↓reduceIte]

/-- A spelling of a keyword is not empty and runs over no line break. -/
theorem unbroken_of_sameFolded {spelling word : List Char} (member : spelling ∈ spellings)
    (same : Text.sameFolded word spelling) : word ≠ [] ∧ '\r' ∉ word ∧ '\n' ∉ word := by
  obtain ⟨nonempty, unreturned, feedless⟩ := unbroken spelling member
  exact ⟨Text.ne_nil_of_sameFolded same nonempty,
    Text.not_mem_of_sameFolded (by decide) same unreturned,
    Text.not_mem_of_sameFolded (by decide) same feedless⟩

/-- A keyword found as a whole word is not empty and runs over no line break. -/
theorem unbroken_of_wholeWord? {before : Option Char} {cs word : List Char}
    (found : wholeWord? spellings before cs = some word) :
    word ≠ [] ∧ '\r' ∉ word ∧ '\n' ∉ word := by
  obtain ⟨spelling, member, stands, rfl⟩ := exists_stands_of_wholeWord? found
  exact unbroken_of_sameFolded unbroken member stands.same

theorem wholeWord?_nil (before : Option Char) : wholeWord? spellings before [] = none := by
  rw [wholeWord?_eq_none_iff]
  intro spelling member stands
  exact (unbroken_of_sameFolded unbroken member stands.same).1 List.take_nil

/-- No keyword starts with a line break. -/
theorem wholeWord?_break {c : Char} (isBreak : c = '\r' ∨ c = '\n') (before : Option Char)
    (rest : List Char) : wholeWord? spellings before (c :: rest) = none := by
  cases found : wholeWord? spellings before (c :: rest) with
  | none => rfl
  | some word =>
      obtain ⟨nonempty, unreturned, feedless⟩ := unbroken_of_wholeWord? unbroken found
      obtain ⟨spelling, -, -, front⟩ := exists_stands_of_wholeWord? found
      obtain ⟨tail, split⟩ : word <+: c :: rest := front ▸ List.take_prefix _ _
      obtain ⟨d, inner, rfl⟩ := List.exists_cons_of_ne_nil nonempty
      obtain ⟨rfl, -⟩ := List.cons.inj split
      rcases isBreak with rfl | rfl
      · exact (unreturned List.mem_cons_self).elim
      · exact (feedless List.mem_cons_self).elim

theorem wholeWordsFrom_nil (before : Option Char) (offset : Nat) (follows : Bool) :
    wholeWordsFrom spellings before offset follows [] = [] := by
  rw [wholeWordsFrom, wholeWord?_nil unbroken]
  simp

/-- The search passes over a line break, which belongs to no keyword. -/
theorem wholeWordsFrom_break {c : Char} (isBreak : c = '\r' ∨ c = '\n') (before : Option Char)
    (offset : Nat) (follows : Bool) (rest : List Char) :
    wholeWordsFrom spellings before offset follows (c :: rest) =
      wholeWordsFrom spellings (some c) (offset + 1) false rest := by
  rw [wholeWordsFrom, wholeWord?_break unbroken isBreak]

end

/-- Where nothing is found the search moves one character on. -/
theorem wholeWordsFrom_of_missing {spellings : List (List Char)} {before : Option Char} {c : Char}
    {rest : List Char} (missing : wholeWord? spellings before (c :: rest) = none) (offset : Nat)
    (follows : Bool) :
    wholeWordsFrom spellings before offset follows (c :: rest) =
      wholeWordsFrom spellings (some c) (offset + 1) false rest := by
  rw [wholeWordsFrom, missing]

/-- Where a keyword is found the search goes on right behind it. -/
theorem wholeWordsFrom_of_found {spellings : List (List Char)} {before : Option Char}
    {word behind : List Char} (found : wholeWord? spellings before (word ++ behind) = some word)
    (nonempty : word ≠ []) (offset : Nat) (follows : Bool) :
    wholeWordsFrom spellings before offset follows (word ++ behind) =
      ⟨offset, word⟩ ::
        wholeWordsFrom spellings word.getLast? (offset + word.length) true behind := by
  obtain ⟨c, inner, rfl⟩ := List.exists_cons_of_ne_nil nonempty
  rw [List.cons_append] at found ⊢
  rw [wholeWordsFrom, found]
  simp only [List.drop_left]

/-- The rest of a text up to the next occurrence, where `offset` is the offset of the rest. -/
def untilNext (cs : List Char) (offset : Nat) : List Occurrence → List Char
  | [] => cs
  | next :: _ => cs.take (next.start - offset)

/-- What lies before the next hit grows by the character before it. -/
theorem untilNext_cons {spellings : List (List Char)} {text : List Char} {offset : Nat}
    {hits : List Occurrence} (spread : Spread spellings text (offset + 1) hits) (c : Char)
    (rest : List Char) :
    untilNext (c :: rest) offset hits = c :: untilNext rest (offset + 1) hits := by
  cases spread with
  | nil => rfl
  | @cons _ hit later part _ =>
      have reached := part.reached
      obtain ⟨gap, ahead⟩ := Nat.exists_eq_add_of_le reached
      have here : hit.start - offset = gap + 1 := by omega
      have next : hit.start - (offset + 1) = gap := by omega
      rw [untilNext, untilNext, here, next, List.take_succ_cons]

end MarkerReport.Occurrence

namespace MarkerReport.Finding

open Comment Occurrence
open Text (Returned)

theorem isBlank_return : Text.isBlank '\r' = true := by decide

/-- A carriage return at the end goes with the rest, or is all that is left of it. -/
theorem dropWhile_append_return {separates : Char → Bool} (separated : separates '\r')
    (cs : List Char) :
    (cs ++ ['\r']).dropWhile separates = cs.dropWhile separates ∨
      (cs ++ ['\r']).dropWhile separates = cs.dropWhile separates ++ ['\r'] := by
  rw [List.dropWhile_append]
  split
  · rename_i empty
    left
    rw [List.isEmpty_iff.mp empty, List.dropWhile_cons, if_pos separated, List.dropWhile_nil]
  · exact .inr rfl

/-- Trimming the end of a text takes a return off with the other blanks. -/
theorem dropBlanksEnd_append_return (cs : List Char) :
    Text.dropBlanksEnd (cs ++ ['\r']) = Text.dropBlanksEnd cs :=
  List.rdropWhile_concat_pos Text.isBlank cs '\r' isBlank_return

/-- A return at the end goes even where the separators have eaten everything before it. -/
theorem dropBlanksEnd_dropWhile_append_return {separates : Char → Bool}
    (separated : separates '\r') (cs : List Char) :
    Text.dropBlanksEnd ((cs ++ ['\r']).dropWhile separates) =
      Text.dropBlanksEnd (cs.dropWhile separates) := by
  rcases dropWhile_append_return separated cs with same | longer
  · rw [same]
  · rw [longer, dropBlanksEnd_append_return]

/-- The first line of a text with returns has at most a return more at its end. -/
theorem untilFeed_of_returned {left right : List Char} (returned : Returned left right) :
    untilFeed right = untilFeed left ∨ untilFeed right = untilFeed left ++ ['\r'] := by
  induction returned with
  | nil => exact .inl rfl
  | ending => exact .inr rfl
  | cons c rest ih =>
      by_cases feed : c = '\n'
      · subst feed
        exact .inl rfl
      · rw [untilFeed, untilFeed, List.takeWhile_cons_of_pos (by simpa using feed),
          List.takeWhile_cons_of_pos (by simpa using feed)]
        exact ih.imp (congrArg _) (congrArg _)
  | feed rest => exact .inr rfl

/-- The text of a record is the same with and without returns. -/
theorem commentText_of_returned {left right : List Char} (returned : Returned left right)
    (isLast : Bool) : commentText left isLast = commentText right isLast := by
  have body : Text.dropBlanksEnd ((untilFeed left).dropWhile isCommentSeparator) =
      Text.dropBlanksEnd ((untilFeed right).dropWhile isCommentSeparator) := by
    rcases untilFeed_of_returned returned with same | longer
    · rw [same]
    · rw [longer, dropBlanksEnd_dropWhile_append_return (by decide)]
  simp only [commentText, body]

/-- The first hit of a record gives the text up to the second, the last one all that is left. -/
theorem ofOccurrences_cons (line : Nat) (text : List Char) (hit : Occurrence)
    (later : List Occurrence) :
    ofOccurrences line text (hit :: later) =
      ofWord line hit.word
          (commentText (untilNext (text.drop hit.stop) hit.stop later) later.isEmpty) ::
        ofOccurrences line text later := by
  cases later <;> rfl

/-- Occurrences in the rests of two texts that say the same, where the rests differ only in carriage
returns up to the first occurrence. -/
structure Alike (line : Nat) (left right : List Char) (leftOffset rightOffset : Nat)
    (hits others : List Occurrence) : Prop where
  gap : Returned (untilNext (left.drop leftOffset) leftOffset hits)
    (untilNext (right.drop rightOffset) rightOffset others)
  ends : hits.isEmpty = others.isEmpty
  findings : ofOccurrences line left hits = ofOccurrences line right others

section

variable {left right leftRest rightRest : List Char}
  {line leftOffset rightOffset : Nat} {hits others : List Occurrence}

/-- The same character before the rests of both texts makes no difference. -/
theorem Alike.cons {spellings : List (List Char)} {c : Char}
    (alike : Alike line left right (leftOffset + 1) (rightOffset + 1) hits others)
    (here : left.drop leftOffset = c :: leftRest) (there : right.drop rightOffset = c :: rightRest)
    (spread : Spread spellings left (leftOffset + 1) hits)
    (otherSpread : Spread spellings right (rightOffset + 1) others) :
    Alike line left right leftOffset rightOffset hits others := by
  have gap := alike.gap
  rw [drop_succ_of_cons here, drop_succ_of_cons there] at gap
  refine ⟨?_, alike.ends, alike.findings⟩
  rw [here, there, untilNext_cons spread, untilNext_cons otherSpread]
  exact .cons c gap

/-- Nor does a line feed with a carriage return in one of them. -/
theorem Alike.feed {spellings : List (List Char)}
    (alike : Alike line left right (leftOffset + 1) (rightOffset + 1 + 1) hits others)
    (here : left.drop leftOffset = '\n' :: leftRest)
    (there : right.drop rightOffset = '\r' :: '\n' :: rightRest)
    (spread : Spread spellings left (leftOffset + 1) hits)
    (otherSpread : Spread spellings right (rightOffset + 1 + 1) others) :
    Alike line left right leftOffset rightOffset hits others := by
  have gap := alike.gap
  rw [drop_succ_of_cons here, drop_succ_of_cons (drop_succ_of_cons there)] at gap
  refine ⟨?_, alike.ends, alike.findings⟩
  rw [here, there, untilNext_cons spread, untilNext_cons (otherSpread.mono (Nat.le_succ _)),
    untilNext_cons otherSpread]
  exact .feed gap

end

section

variable {spellings : List (List Char)} (unbroken : Unbroken spellings)

include unbroken

/-- The occurrences in the rests of two texts that differ only in carriage returns say the same. The
induction is on the search in the left text; at a line feed the right search may take one step
more. -/
theorem alike_wholeWordsFrom (line : Nat) {left right : List Char}
    (before other : Option Char) (leftOffset rightOffset : Nat) (follows others : Bool)
    (leftRest rightRest : List Char) (here : left.drop leftOffset = leftRest)
    (there : right.drop rightOffset = rightRest) (returned : Returned leftRest rightRest)
    (same : wordAt before = wordAt other) :
    Alike line left right leftOffset rightOffset
      (wholeWordsFrom spellings before leftOffset follows leftRest)
      (wholeWordsFrom spellings other rightOffset others rightRest) := by
  fun_induction wholeWordsFrom spellings before leftOffset follows leftRest
    generalizing other rightOffset others rightRest with
  | case1 before leftOffset follows found =>
      rw [wholeWord?_nil unbroken] at found
      simp at found
  | case2 before leftOffset follows missing =>
      have silent : wholeWordsFrom spellings other rightOffset others rightRest = [] := by
        cases returned with
        | nil => exact wholeWordsFrom_nil unbroken _ _ _
        | ending =>
            rw [wholeWordsFrom_break unbroken (.inl rfl), wholeWordsFrom_nil unbroken]
      rw [silent]
      exact ⟨by rwa [untilNext, untilNext, here, there], rfl, rfl⟩
  | case3 before leftOffset follows c rest missing ih =>
      have below := drop_succ_of_cons here
      have spread : Spread spellings left (leftOffset + 1)
          (wholeWordsFrom spellings (some c) (leftOffset + 1) false rest) :=
        spread_wholeWordsFrom _ _ _ _ below
      cases returned with
      | @cons _ _ rightRest returned =>
          have absent := missing
          rw [wholeWord?_of_returned unbroken (.cons c returned) same] at absent
          have beyond := drop_succ_of_cons there
          rw [wholeWordsFrom_of_missing absent]
          exact (ih _ _ _ _ below beyond returned rfl).cons here there spread
            (spread_wholeWordsFrom _ _ _ _ beyond)
      | @feed _ rightRest returned =>
          -- The right search passes over the carriage return before the two are level again.
          have beyond := drop_succ_of_cons (drop_succ_of_cons there)
          rw [wholeWordsFrom_break unbroken (.inl rfl), wholeWordsFrom_break unbroken (.inr rfl)]
          exact (ih _ _ _ _ below beyond returned rfl).feed here there spread
            (spread_wholeWordsFrom _ _ _ _ beyond)
  | case4 before offset c rest found ih =>
      exact ((unbroken_of_wholeWord? unbroken found).1 rfl).elim
  | case5 before offset follows c rest found apart ih =>
      exact ((unbroken_of_wholeWord? unbroken found).1 rfl).elim
  | case6 before leftOffset follows c rest d word found ih =>
      obtain ⟨nonempty, -, feedless⟩ := unbroken_of_wholeWord? unbroken found
      obtain ⟨spelling, -, -, front⟩ := exists_stands_of_wholeWord? found
      obtain ⟨behind, split⟩ : d :: word <+: c :: rest := front ▸ List.take_prefix _ _
      obtain ⟨rfl, rfl⟩ : d = c ∧ word ++ behind = rest := List.cons.inj split
      rw [← List.cons_append] at found here returned
      obtain ⟨beyond, rfl, rest⟩ := returned.of_append_left feedless
      have also := found
      rw [wholeWord?_of_returned unbroken returned same] at also
      have below : left.drop (leftOffset + (d :: word).length) = behind := by
        rw [← List.drop_drop, here, List.drop_left]
      have onward : right.drop (rightOffset + (d :: word).length) = beyond := by
        rw [← List.drop_drop, there, List.drop_left]
      rw [List.drop_left] at ih ⊢
      have later := ih _ _ true _ below onward rest rfl
      rw [wholeWordsFrom_of_found also nonempty]
      -- Nothing stands before the occurrence found, and behind it the rests go on alike.
      refine ⟨?_, rfl, ?_⟩
      · rw [untilNext, untilNext, Nat.sub_self, Nat.sub_self, List.take_zero, List.take_zero]
        exact .nil
      · rw [ofOccurrences_cons, ofOccurrences_cons, later.findings, later.ends, stop, stop,
          commentText_of_returned later.gap]

end

/-- Comments that differ only in carriage returns have the same findings. -/
theorem inComment_of_returned {keywords : Keywords} (unbroken : Unbroken keywords.spellings)
    {comment other : Comment} (line : comment.line = other.line)
    (returned : Returned comment.text other.text) :
    inComment keywords comment = inComment keywords other := by
  rw [inComment, inComment, line]
  exact (alike_wholeWordsFrom unbroken other.line none none 0 0 false false _ _ rfl rfl returned
    rfl).findings

end MarkerReport.Finding

namespace MarkerReport.Settings

/-- No line break is a letter, a digit or an underscore. -/
theorem unbroken_of_validate {settings : Settings} (valid : settings.validate = .ok ())
    {keywords : Keywords} (accepted : settings.keywords = .ok keywords) :
    Occurrence.Unbroken keywords.spellings := by
  intro spelling listed
  obtain ⟨nonempty, characters⟩ := word_of_mem_spellings valid accepted listed
  refine ⟨nonempty, fun member => ?_, fun member => ?_⟩
  · exact absurd (characters _ member) (by decide)
  · exact absurd (characters _ member) (by decide)

end MarkerReport.Settings
