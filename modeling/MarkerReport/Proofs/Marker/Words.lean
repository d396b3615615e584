import Mathlib.Data.List.TakeWhile
import MarkerReport.Marker.Finding
import MarkerReport.Proofs.Marker.Occurrences

/-! # Keywords that are words

A word of a text is a maximal stretch of word characters. Keywords that are words themselves occur
just where a word of the text agrees with one of them up to case: no occurrence is a part of a word,
and none reaches over two. So a comment has one finding for each such word
(`MarkerReport.Finding.inComment_reports_words`), and neither the order of the keywords nor
repetitions, their case, or one leading another make a difference.
-/

namespace MarkerReport.Occurrence

/-- A word of a text: a stretch of word characters that cannot be extended on either side. -/
structure IsWordOf (text : List Char) (word : Occurrence) : Prop where
  nonempty : word.word ≠ []
  located : word.word <+: text.drop word.start
  inside : word.word.all Text.isWord
  before : wordAt (text.take word.start).getLast? = false
  after : wordAt (text.drop word.stop).head? = false

/-- The words in the rest `cs` of a text, where `offset` is the offset of the rest and `before` the
character that precedes it. -/
def wordsFrom (before : Option Char) (offset : Nat) : List Char → List Occurrence
  | [] => []
  | c :: rest =>
      let later := wordsFrom (some c) (offset + 1) rest
      if !wordAt before && Text.isWord c then
        ⟨offset, (c :: rest).takeWhile Text.isWord⟩ :: later
      else later

theorem wordAt_head?_eq_false_iff (cs : List Char) :
    wordAt cs.head? = false ↔ cs.takeWhile Text.isWord = [] := by
  cases cs with
  | nil => simp [wordAt]
  | cons c rest => by_cases word : Text.isWord c <;> simp [wordAt, word]

/-- Behind a run of word characters stands no word character. -/
theorem wordAt_head?_dropWhile (cs : List Char) :
    wordAt (cs.dropWhile Text.isWord).head? = false := by
  have stops := List.head?_dropWhile_not Text.isWord cs
  cases rest : (cs.dropWhile Text.isWord).head? with
  | none => rfl
  | some c => simpa [rest, wordAt] using stops

/-- A front of word characters with none behind it is all of the leading word. -/
theorem takeWhile_isWord_append {front behind : List Char} (word : front.all Text.isWord)
    (ends : wordAt behind.head? = false) :
    (front ++ behind).takeWhile Text.isWord = front := by
  rw [List.takeWhile_append_of_pos (List.all_eq_true.mp word),
    (wordAt_head?_eq_false_iff behind).mp ends, List.append_nil]

/-- A run of word characters ends with one. -/
theorem wordAt_getLast?_of_all {front : List Char} (nonempty : front ≠ [])
    (word : front.all Text.isWord) (before : Option Char) :
    wordAt (front.getLast?.or before) = true := by
  rw [List.getLast?_eq_some_getLast nonempty, Option.some_or]
  exact List.all_eq_true.mp word _ (List.getLast_mem nonempty)

/-- A run of word characters starts with one. -/
theorem wordAt_head?_of_all {front : List Char} (nonempty : front ≠ [])
    (word : front.all Text.isWord) (behind : List Char) :
    wordAt (front ++ behind).head? = true := by
  cases front with
  | nil => exact (nonempty rfl).elim
  | cons c front => exact List.all_eq_true.mp word c List.mem_cons_self

/-- A boundary lies between two places of which just one is a word character. -/
theorem isBoundary_iff (before after : Option Char) :
    isBoundary before after ↔ wordAt before ≠ wordAt after :=
  bne_iff_ne

theorem drop_length_takeWhile (cs : List Char) :
    cs.drop (cs.takeWhile Text.isWord).length = cs.dropWhile Text.isWord := by
  have behind : (cs.takeWhile Text.isWord ++ cs.dropWhile Text.isWord).drop
      (cs.takeWhile Text.isWord).length = cs.dropWhile Text.isWord := List.drop_left
  rwa [List.takeWhile_append_dropWhile] at behind

/-- A word that folds to a spelling is what the search takes at that place, folding keeping the
length. -/
theorem take_of_sameFolded {spelling cs : List Char}
    (same : Text.sameFolded (cs.takeWhile Text.isWord) spelling) :
    cs.take spelling.length = cs.takeWhile Text.isWord := by
  rw [← Text.length_eq_of_sameFolded same]
  exact (List.prefix_iff_eq_take.mp (List.takeWhile_prefix Text.isWord)).symm

/-- Inside a word none starts. -/
theorem wordsFrom_inside {c : Char} (inside : Text.isWord c) (offset : Nat) {front : List Char}
    (word : front.all Text.isWord) (behind : List Char) :
    wordsFrom (some c) offset (front ++ behind) =
      wordsFrom (c :: front).getLast? (offset + front.length) behind := by
  induction front generalizing c offset with
  | nil => rfl
  | cons next front ih =>
      rw [List.all_cons, Bool.and_eq_true] at word
      rw [List.cons_append, wordsFrom, if_neg (by simp [wordAt, inside]), ih word.1 _ word.2,
        List.getLast?_cons_cons, List.length_cons]
      congr 1
      omega

/-- A word that starts here is listed first. -/
theorem wordsFrom_of_start {before : Option Char} (start : wordAt before = false) (offset : Nat)
    {front : List Char} (nonempty : front ≠ []) (word : front.all Text.isWord)
    {behind : List Char} (ends : wordAt behind.head? = false) :
    wordsFrom before offset (front ++ behind) =
      ⟨offset, front⟩ :: wordsFrom front.getLast? (offset + front.length) behind := by
  have whole := takeWhile_isWord_append word ends
  cases front with
  | nil => exact (nonempty rfl).elim
  | cons c front =>
      rw [List.all_cons, Bool.and_eq_true] at word
      rw [List.cons_append] at whole
      rw [List.cons_append, wordsFrom, if_pos (by simp [start, word.1]), whole,
        wordsFrom_inside word.1 _ word.2, List.length_cons]
      congr 2
      omega

/-- A spelling that is a word stands here exactly if it agrees with a word that starts here. -/
theorem stands_iff {spelling : List Char} (nonempty : spelling ≠ [])
    (word : spelling.all Text.isWord) (before : Option Char) (cs : List Char) :
    Stands spelling before cs ↔
      wordAt before = false ∧ Text.sameFolded (cs.takeWhile Text.isWord) spelling := by
  have split := List.take_append_drop spelling.length cs
  constructor
  · rintro ⟨opens, same, closes⟩
    have front : (cs.take spelling.length).all Text.isWord := by
      rwa [Text.all_isWord_eq_of_sameFolded same]
    have occupied := Text.ne_nil_of_sameFolded same nonempty
    have first := wordAt_head?_of_all occupied front (cs.drop spelling.length)
    rw [split] at first
    rw [isBoundary_iff, first] at opens
    rw [isBoundary_iff, wordAt_getLast?_of_all occupied front] at closes
    have whole := takeWhile_isWord_append front (Bool.eq_false_iff.mpr closes.symm)
    rw [split] at whole
    exact ⟨Bool.eq_false_iff.mpr opens, by rwa [whole]⟩
  · rintro ⟨start, same⟩
    have whole := take_of_sameFolded same
    have front : (cs.takeWhile Text.isWord).all Text.isWord := by
      rwa [Text.all_isWord_eq_of_sameFolded same]
    have occupied := Text.ne_nil_of_sameFolded same nonempty
    have first := wordAt_head?_of_all occupied front (cs.dropWhile Text.isWord)
    have rest : cs.drop spelling.length = cs.dropWhile Text.isWord := by
      rw [← Text.length_eq_of_sameFolded same, drop_length_takeWhile]
    rw [List.takeWhile_append_dropWhile] at first
    constructor
    · rw [isBoundary_iff, start, first]
      exact Bool.false_ne_true
    · rwa [whole]
    · rw [isBoundary_iff, whole, rest, wordAt_getLast?_of_all occupied front,
        wordAt_head?_dropWhile]
      exact Bool.false_ne_true.symm

section

variable {spellings : List (List Char)}
  (areWords : ∀ spelling ∈ spellings, spelling ≠ [] ∧ spelling.all Text.isWord)

include areWords

/-- Among keywords that are words, the one found at a place is the word that starts there. -/
theorem wholeWord?_eq (before : Option Char) (cs : List Char) :
    wholeWord? spellings before cs =
      if wordAt before = false ∧ spellings.any (Text.sameFolded (cs.takeWhile Text.isWord)) then
        some (cs.takeWhile Text.isWord)
      else none := by
  have starts (spelling : List Char) (member : spelling ∈ spellings) :=
    stands_iff (areWords spelling member).1 (areWords spelling member).2 before cs
  cases found : wholeWord? spellings before cs with
  | none =>
      rw [wholeWord?_eq_none_iff] at found
      rw [if_neg]
      rintro ⟨start, agrees⟩
      obtain ⟨spelling, member, same⟩ := List.any_eq_true.mp agrees
      exact found spelling member ((starts spelling member).mpr ⟨start, same⟩)
  | some word =>
      obtain ⟨spelling, member, stands, rfl⟩ := exists_stands_of_wholeWord? found
      obtain ⟨start, same⟩ := (starts spelling member).mp stands
      rw [if_pos ⟨start, List.any_eq_true.mpr ⟨spelling, member, same⟩⟩, take_of_sameFolded same]

/-- No empty word is found: there is no boundary to both of its sides. -/
theorem wholeWord?_ne_nil (before : Option Char) (cs : List Char) :
    wholeWord? spellings before cs ≠ some [] := by
  intro found
  obtain ⟨spelling, member, stands, empty⟩ := exists_stands_of_wholeWord? found
  exact Text.ne_nil_of_sameFolded stands.same (areWords spelling member).1 empty

/-- Searching for keywords is searching for words and keeping those that fold to a keyword. -/
theorem wholeWordsFrom_eq_filter (before : Option Char) (offset : Nat) (follows : Bool)
    (cs : List Char) :
    wholeWordsFrom spellings before offset follows cs =
      (wordsFrom before offset cs).filter fun word =>
        spellings.any (Text.sameFolded word.word) := by
  fun_induction wholeWordsFrom spellings before offset follows cs with
  | case1 before offset follows found =>
      rw [Bool.and_eq_true, Option.isSome_iff_exists] at found
      obtain ⟨-, word, found⟩ := found
      obtain ⟨spelling, member, stands, rfl⟩ := exists_stands_of_wholeWord? found
      exact (wholeWord?_ne_nil areWords before [] (by rw [found, List.take_nil])).elim
  | case2 before offset follows missing => rfl
  | case3 before offset follows c rest missing ih =>
      rw [ih, wordsFrom]
      split
      · rename_i starts
        rw [List.filter_cons_of_neg]
        intro agrees
        rw [Bool.and_eq_true, Bool.not_eq_true'] at starts
        rw [wholeWord?_eq areWords, if_pos ⟨starts.1, agrees⟩] at missing
        exact Option.some_ne_none _ missing
      · rfl
  | case4 before offset c rest found ih => exact (wholeWord?_ne_nil areWords before _ found).elim
  | case5 before offset follows c rest found apart ih =>
      exact (wholeWord?_ne_nil areWords before _ found).elim
  | case6 before offset follows c rest d word found ih =>
      rw [wholeWord?_eq areWords, Option.ite_none_right_eq_some] at found
      obtain ⟨⟨start, agrees⟩, whole⟩ := found
      rw [Option.some.injEq] at whole
      rw [whole] at agrees
      -- The keyword found is all of the word here, so the search goes on behind that word.
      have inside : (d :: word).all Text.isWord := whole ▸ List.all_takeWhile
      obtain ⟨behind, split, ends⟩ :
          ∃ behind, d :: word ++ behind = c :: rest ∧ wordAt behind.head? = false :=
        ⟨_, by rw [← whole, List.takeWhile_append_dropWhile], wordAt_head?_dropWhile (c :: rest)⟩
      obtain ⟨rfl, rfl⟩ : d = c ∧ word ++ behind = rest := List.cons.inj split
      rw [List.drop_left] at ih
      rw [List.drop_left, ih, ← split, wordsFrom_of_start start offset (List.cons_ne_nil d word)
        inside ends, List.filter_cons, if_pos agrees]

end

/-- The words found from an offset start there or later. -/
theorem start_le_of_mem_wordsFrom {before : Option Char} {offset : Nat} {cs : List Char}
    {word : Occurrence} (member : word ∈ wordsFrom before offset cs) : offset ≤ word.start := by
  induction cs generalizing before offset with
  | nil => simp [wordsFrom] at member
  | cons c rest ih =>
      rw [wordsFrom] at member
      split at member
      · rcases List.mem_cons.mp member with rfl | later
        · exact le_rfl
        · exact (Nat.le_succ offset).trans (ih later)
      · exact (Nat.le_succ offset).trans (ih member)

/-- Words are found in the order of their places. -/
theorem pairwise_wordsFrom (before : Option Char) (offset : Nat) (cs : List Char) :
    (wordsFrom before offset cs).Pairwise fun first second => first.start < second.start := by
  induction cs generalizing before offset with
  | nil => exact .nil
  | cons c rest ih =>
      rw [wordsFrom]
      split
      · exact .cons (fun word member => start_le_of_mem_wordsFrom member) (ih _ _)
      · exact ih _ _

/-- The word that starts at an offset, if one does, takes all the word characters there. -/
theorem isWordOf_iff_of_start (passed cs word : List Char) :
    IsWordOf (passed ++ cs) ⟨passed.length, word⟩ ↔
      (wordAt passed.getLast? = false ∧ wordAt cs.head? = true) ∧
        word = cs.takeWhile Text.isWord := by
  constructor
  · rintro ⟨nonempty, located, inside, before, after⟩
    rw [List.take_left] at before
    rw [List.drop_left] at located
    obtain ⟨behind, rfl⟩ := located
    rw [stop, ← List.drop_drop, List.drop_left, List.drop_left] at after
    refine ⟨⟨before, wordAt_head?_of_all nonempty inside behind⟩, ?_⟩
    exact (takeWhile_isWord_append inside after).symm
  · rintro ⟨⟨before, starts⟩, rfl⟩
    refine ⟨?_, ?_, List.all_takeWhile, ?_, ?_⟩
    · intro empty
      rw [(wordAt_head?_eq_false_iff cs).mpr empty] at starts
      exact Bool.false_ne_true starts
    · rw [List.drop_left]
      exact List.takeWhile_prefix Text.isWord
    · rwa [List.take_left]
    · rw [stop, ← List.drop_drop, List.drop_left, drop_length_takeWhile]
      exact wordAt_head?_dropWhile cs

/-- The words found behind what has been passed are the maximal runs that start there. -/
theorem mem_wordsFrom_iff (passed cs : List Char) (word : Occurrence) :
    word ∈ wordsFrom passed.getLast? passed.length cs ↔
      passed.length ≤ word.start ∧ IsWordOf (passed ++ cs) word := by
  induction cs generalizing passed with
  | nil =>
      refine iff_of_false List.not_mem_nil ?_
      rintro ⟨reached, isWord⟩
      have located := isWord.located
      rw [List.append_nil, List.drop_of_length_le reached] at located
      exact isWord.nonempty (List.prefix_nil.mp located)
  | cons c rest ih =>
      have later := ih (passed ++ [c])
      rw [List.getLast?_concat, List.length_append, List.length_singleton, List.append_assoc,
        List.singleton_append] at later
      rw [wordsFrom]
      by_cases here : word.start = passed.length
      · obtain ⟨start, word⟩ := word
        obtain rfl : start = passed.length := here
        have absent : ⟨passed.length, word⟩ ∉ wordsFrom (some c) (passed.length + 1) rest :=
          fun member => Nat.not_succ_le_self _ (later.mp member).1
        rw [isWordOf_iff_of_start]
        split
        · rename_i starts
          rw [Bool.and_eq_true, Bool.not_eq_true'] at starts
          rw [List.mem_cons, or_iff_left absent, Occurrence.mk.injEq]
          exact ⟨fun same => ⟨le_rfl, starts, same.2⟩, fun facts => ⟨rfl, facts.2.2⟩⟩
        · rename_i elsewhere
          rw [Bool.and_eq_true, Bool.not_eq_true'] at elsewhere
          exact iff_of_false absent fun facts => elsewhere facts.2.1
      · have order : passed.length ≤ word.start ↔ passed.length + 1 ≤ word.start := by omega
        rw [order]
        split
        · rw [List.mem_cons, later, or_iff_right]
          rintro rfl
          exact here rfl
        · exact later

/-- The words of a text. -/
def words (text : List Char) : List Occurrence := wordsFrom none 0 text

/-- The words of a text are its maximal runs of word characters. -/
theorem mem_words_iff (text : List Char) (word : Occurrence) :
    word ∈ words text ↔ IsWordOf text word := by
  exact (mem_wordsFrom_iff [] text word).trans (and_iff_right (Nat.zero_le word.start))

end MarkerReport.Occurrence

namespace MarkerReport.Keywords

/-- Every keyword is a word. -/
def AreWords (keywords : Keywords) : Prop :=
  ∀ spelling ∈ keywords.spellings, spelling ≠ [] ∧ spelling.all Text.isWord

/-- Each keyword of either list agrees, up to case, with one of the other. -/
def Agree (left right : Keywords) : Prop :=
  (∀ spelling ∈ left.spellings, ∃ other ∈ right.spellings, Text.sameFolded spelling other) ∧
    ∀ other ∈ right.spellings, ∃ spelling ∈ left.spellings, Text.sameFolded spelling other

instance (keywords : Keywords) : Decidable keywords.AreWords :=
  inferInstanceAs (Decidable (∀ spelling ∈ keywords.spellings,
    spelling ≠ [] ∧ spelling.all Text.isWord))

instance (left right : Keywords) : Decidable (left.Agree right) :=
  inferInstanceAs (Decidable ((∀ spelling ∈ left.spellings, ∃ other ∈ right.spellings,
      Text.sameFolded spelling other) ∧
    ∀ other ∈ right.spellings, ∃ spelling ∈ left.spellings, Text.sameFolded spelling other))

/-- Keywords that agree with word keywords are words as well. -/
theorem Agree.areWords {left right : Keywords} (agree : left.Agree right)
    (areWords : right.AreWords) : left.AreWords := by
  intro spelling member
  obtain ⟨other, listed, same⟩ := agree.1 spelling member
  obtain ⟨nonempty, word⟩ := areWords other listed
  exact ⟨Text.ne_nil_of_sameFolded same nonempty, by rwa [Text.all_isWord_eq_of_sameFolded same]⟩

/-- Keywords that agree recognise the same words. -/
theorem Agree.any_sameFolded_eq {left right : Keywords} (agree : left.Agree right)
    (word : List Char) :
    left.spellings.any (Text.sameFolded word) = right.spellings.any (Text.sameFolded word) := by
  rw [Bool.eq_iff_iff, List.any_eq_true, List.any_eq_true]
  constructor
  · rintro ⟨spelling, member, same⟩
    obtain ⟨other, listed, agrees⟩ := agree.1 spelling member
    exact ⟨other, listed, Text.sameFolded_trans same agrees⟩
  · rintro ⟨other, listed, same⟩
    obtain ⟨spelling, member, agrees⟩ := agree.2 other listed
    exact ⟨spelling, member, Text.sameFolded_trans same (Text.sameFolded_symm agrees)⟩

/-- The occurrences of keywords that are words are the words that agree with one of them. -/
theorem AreWords.wholeWords_eq {keywords : Keywords} (areWords : keywords.AreWords)
    (text : List Char) :
    Occurrence.wholeWords keywords text =
      (Occurrence.words text).filter fun word =>
        keywords.spellings.any (Text.sameFolded word.word) :=
  Occurrence.wholeWordsFrom_eq_filter areWords none 0 false text

end MarkerReport.Keywords

namespace MarkerReport.Finding

open Occurrence

/-- Lines and kinds of the findings of a record come from its hits alone, not from the texts between
them. -/
theorem ofOccurrences_map (line : Nat) (text : List Char) (hits : List Occurrence) :
    ((ofOccurrences line text hits).map fun finding => (finding.line, finding.kind)) =
      hits.map fun hit => (line, String.ofList (Text.upper hit.word)) := by
  fun_induction ofOccurrences line text hits with
  | case1 => rfl
  | case2 hit => rfl
  | case3 hit next later ih => rw [List.map_cons, ih]; rfl

/-- The findings of keywords that are words, by a search that looks at words only. -/
theorem inComment_eq_of_areWords {keywords : Keywords} (areWords : keywords.AreWords) :
    inComment keywords = fun comment =>
      ofOccurrences comment.line comment.text
        ((words comment.text).filter fun word =>
          keywords.spellings.any (Text.sameFolded word.word)) :=
  funext fun comment => by rw [inComment, areWords.wholeWords_eq]

/-- A comment has exactly one finding for each of its words that agrees with a keyword up to case,
in the order of the text. Which of the keywords it is, and how they are listed, makes no
difference. -/
theorem inComment_reports_words (keywords : Keywords) (areWords : keywords.AreWords)
    (comment : Comment) :
    (∃ words : List Occurrence,
      words.Pairwise (fun first second => first.start < second.start) ∧
      (∀ word, word ∈ words ↔ IsWordOf comment.text word ∧
        ∃ spelling ∈ keywords.spellings, Text.sameFolded word.word spelling) ∧
      ((inComment keywords comment).map fun finding => (finding.line, finding.kind)) =
        words.map fun word => (comment.line, String.ofList (Text.upper word.word))) ∧
    ∀ others : Keywords, others.Agree keywords →
      inComment others comment = inComment keywords comment := by
  refine ⟨⟨wholeWords keywords comment.text, ?_, fun word => ?_, ofOccurrences_map _ _ _⟩, ?_⟩
  · rw [areWords.wholeWords_eq]
    exact (pairwise_wordsFrom _ _ _).filter _
  · rw [areWords.wholeWords_eq, List.mem_filter, mem_words_iff, List.any_eq_true]
  · intro others agree
    rw [inComment, inComment, areWords.wholeWords_eq, (agree.areWords areWords).wholeWords_eq]
    simp only [agree.any_sameFolded_eq]

/-- One keyword leads another here, and the other list is in another order and case. -/
theorem inComment_reports_words_todos :
    (⟨["TODO", "TODOS"], by simp⟩ : Keywords).AreWords ∧
    (⟨["todos", "Todo", "TODO"], by simp⟩ : Keywords).Agree ⟨["TODO", "TODOS"], by simp⟩ ∧
    inComment ⟨["todos", "Todo", "TODO"], by simp⟩ ⟨4, .hash, "# todos, xTODO todo".toList⟩ =
      inComment ⟨["TODO", "TODOS"], by simp⟩ ⟨4, .hash, "# todos, xTODO todo".toList⟩ ∧
    ∃ words : List Occurrence,
      (∀ word, word ∈ words ↔ IsWordOf "# todos, xTODO todo".toList word ∧
        ∃ spelling ∈ ["TODO", "TODOS"].map String.toList,
          Text.sameFolded word.word spelling) ∧
      [(4, "TODOS"), (4, "TODO")] =
        words.map fun word => (4, String.ofList (Text.upper word.word)) := by
  have areWords : (⟨["TODO", "TODOS"], by simp⟩ : Keywords).AreWords := by decide +kernel
  have agree : (⟨["todos", "Todo", "TODO"], by simp⟩ : Keywords).Agree
      ⟨["TODO", "TODOS"], by simp⟩ := by decide +kernel
  obtain ⟨⟨words, -, listed, reported⟩, same⟩ :=
    inComment_reports_words _ areWords ⟨4, .hash, "# todos, xTODO todo".toList⟩
  refine ⟨areWords, agree, same _ agree, words, listed, ?_⟩
  rw [← reported, inComment, areWords.wholeWords_eq]
  decide +kernel

end MarkerReport.Finding
