import Mathlib.Data.List.Infix
import MarkerReport.Proofs.Command.Stages
import MarkerReport.Proofs.Marker.Kinds
import MarkerReport.Proofs.Marker.Returns

/-! # Keywords that can be found

Settings accept keywords of letters, numbers of any kind and underscores. A search takes digits for
word characters, but not superscripts, fractions and the like. So a keyword that starts or ends with
a superscript is never found, because a word boundary has to lie there. In the middle such a number
does no harm of its own, but it ends a word, and another keyword may be found that ends there too.

A comment that names a keyword has a finding of its kind just if the keyword starts and ends with
word characters and is not cut short like that by one that is listed before it
(`MarkerReport.Settings.keyword_found_iff`). Keywords of word characters are always found.
-/

namespace MarkerReport.Text

/-- A character with a sequence for its upper case has at least two characters there. -/
theorem capitalSequences_lengths : ∀ entry ∈ capitalSequences, 2 ≤ entry.2.length := by
  decide +kernel

/-- The upper case of a character is never empty. -/
theorem capitals_ne_nil (c : Char) : capitals c ≠ [] := by
  intro empty
  rcases capitals_cases c with ⟨_, _, _, _, form⟩ | ⟨codes, listed, form⟩ | form
  · cases form.symm.trans empty
  · have several : 2 ≤ codes.length := capitalSequences_lengths _ listed
    rw [List.map_eq_nil_iff.mp (form.symm.trans empty)] at several
    exact absurd several (by decide)
  · cases form.symm.trans empty

/-- Upper-casing empties no text. -/
theorem upper_eq_nil_iff (cs : List Char) : upper cs = [] ↔ cs = [] := by
  cases cs with
  | nil => exact iff_of_true rfl rfl
  | cons c rest =>
      refine iff_of_false ?_ (List.cons_ne_nil c rest)
      rw [upper, List.flatMap_cons, List.append_eq_nil_iff]
      exact fun empty => capitals_ne_nil c empty.1

/-- No proper part of a text has its upper-case form. -/
theorem eq_of_isInfix_of_upper_eq {part text : List Char} (inside : part <:+: text)
    (same : upper part = upper text) : part = text := by
  obtain ⟨front, behind, rfl⟩ := inside
  have parts : upper (front ++ part ++ behind) = upper front ++ upper part ++ upper behind := by
    simp only [upper, List.flatMap_append]
  have lengths := congrArg List.length (same.trans parts)
  simp only [List.length_append] at lengths
  have first : upper front = [] := List.length_eq_zero_iff.mp (by omega)
  have last : upper behind = [] := List.length_eq_zero_iff.mp (by omega)
  rw [(upper_eq_nil_iff front).mp first, (upper_eq_nil_iff behind).mp last, List.nil_append,
    List.append_nil]

/-- The only run of the table that reaches the capital letter takes it from the small one. -/
theorem capitalShifts_reaching_x : ∀ shift ∈ capitalShifts, shift.target ≤ 0x58 →
    0x58 ≤ shift.target + (shift.last - shift.first) →
    shift.first + 0x58 = shift.target + 0x78 := by
  decide +kernel

/-- Only the two letters themselves have that capital for upper case. -/
theorem eq_of_capitals_eq_x {c : Char} (same : capitals c = ['X']) : c = 'x' ∨ c = 'X' := by
  rcases capitals_cases c with
    ⟨shift, listed, above, below, form⟩ | ⟨codes, listed, form⟩ | form
  · have image := congrArg Char.toNat (List.singleton_inj.mp (form.symm.trans same))
    rw [(Shift.isCapitalCode_target listed above below).toNat_ofNat] at image
    change _ = 0x58 at image
    have source := capitalShifts_reaching_x shift listed (by omega) (by omega)
    have code : c.toNat = 'x'.toNat := by
      change c.toNat = 0x78
      omega
    exact .inl (Char.toNat_inj.mp code)
  · have several : 2 ≤ codes.length := capitalSequences_lengths _ listed
    have length := congrArg List.length (form.symm.trans same)
    rw [List.length_map, List.length_singleton] at length
    omega
  · exact .inr (List.singleton_inj.mp (form.symm.trans same))

/-- Only two texts have that capital for upper case: the one-letter ones. -/
theorem eq_of_upper_eq_x {cs : List Char} (same : upper cs = ['X']) : cs = ['x'] ∨ cs = ['X'] := by
  cases cs with
  | nil => cases same
  | cons c rest =>
      rw [upper, List.flatMap_cons] at same
      rcases List.append_eq_singleton_iff.mp same with ⟨empty, -⟩ | ⟨form, empty⟩
      · exact (capitals_ne_nil c empty).elim
      · obtain rfl := (upper_eq_nil_iff rest).mp empty
        rcases eq_of_capitals_eq_x form with rfl | rfl
        · exact .inl rfl
        · exact .inr rfl

end MarkerReport.Text

namespace MarkerReport.Occurrence

/-- The keyword cuts a word short: it agrees with a front of the word, and a word boundary lies
between that and the rest of the word. -/
@[mk_iff]
structure Cuts (spelling word : List Char) : Prop where
  shorter : spelling.length < word.length
  same : Text.sameFolded (word.take spelling.length) spelling
  ends : isBoundary (word.take spelling.length).getLast? (word.drop spelling.length).head?

/-- A word that starts and ends with word characters, and that is cut short by no keyword unless one
that agrees with the word is listed before that. -/
structure Findable (spellings : List (List Char)) (word : List Char) : Prop where
  opens : wordAt word.head? = true
  closes : wordAt word.getLast? = true
  uncut : ∀ earlier other later, spellings = earlier ++ other :: later → Cuts other word →
    ∃ spelling ∈ earlier, Text.sameFolded word spelling

/-- A spelling shorter than the word it stands at leaves some of the word behind it. -/
theorem drop_ne_nil_of_shorter {spelling word : List Char}
    (shorter : spelling.length < word.length) : word.drop spelling.length ≠ [] := by
  rw [Ne, List.drop_eq_nil_iff]
  omega

/-- No keyword cuts short what is made of word characters. -/
theorem findable_of_all_isWord {spellings : List (List Char)}
    (occupied : ∀ spelling ∈ spellings, spelling ≠ []) {word : List Char} (nonempty : word ≠ [])
    (inside : word.all Text.isWord) : Findable spellings word where
  opens := by simpa using wordAt_head?_of_all nonempty inside []
  closes := by simpa using wordAt_getLast?_of_all nonempty inside none
  uncut := by
    intro earlier other later split cuts
    have filled : other ≠ [] := occupied other (by simp [split])
    rw [← List.take_append_drop other.length word, List.all_append, Bool.and_eq_true] at inside
    have front : wordAt (word.take other.length).getLast? = true := by
      have kept := Text.ne_nil_of_sameFolded cuts.same filled
      simpa using wordAt_getLast?_of_all kept inside.1 none
    have behind : wordAt (word.drop other.length).head? = true := by
      have left := drop_ne_nil_of_shorter cuts.shorter
      simpa using wordAt_head?_of_all left inside.2 []
    exact ((isBoundary_iff _ _).mp cuts.ends (front.trans behind.symm)).elim

section

variable {spellings : List (List Char)} (single : AreSingle spellings)

include single

/-- No keyword starts with a sign that keywords may not hold. -/
theorem AreSingle.wholeWord?_sign (sign : Char)
    (apart : (Text.isAlphanumeric sign || sign == '_') = false) (before : Option Char)
    (rest : List Char) : wholeWord? spellings before (sign :: rest) = none := by
  rw [wholeWord?_eq_none_iff]
  intro spelling listed stands
  obtain ⟨c, inner, rfl⟩ := List.exists_cons_of_ne_nil (single spelling listed).1
  exact single.not_mem listed stands.same apart List.mem_cons_self

/-- A single word found right before a colon is no longer than the word that stands there: the colon
is in no spelling. -/
theorem AreSingle.length_le_of_stands {spelling : List Char} (listed : spelling ∈ spellings)
    {before : Option Char} {word behind : List Char}
    (stands : Stands spelling before (word ++ ':' :: behind)) : spelling.length ≤ word.length := by
  by_contra beyond
  obtain ⟨more, length⟩ := Nat.exists_eq_add_of_lt (Nat.lt_of_not_le beyond)
  have same := stands.same
  rw [length, Nat.add_assoc, List.take_length_add_append, List.take_succ_cons] at same
  exact single.not_mem listed same (by decide +kernel)
    (List.mem_append_right _ List.mem_cons_self)

end

/-- Behind a blank there is a boundary exactly where a word character follows. -/
theorem isBoundary_blank (after : Option Char) :
    isBoundary (some ' ') after ↔ wordAt after = true := by
  have blank : wordAt (some ' ') = false := by decide +kernel
  rw [isBoundary_iff, blank, ne_comm, Bool.ne_false_iff]

/-- Before a colon there is a boundary exactly where a word character ends. -/
theorem isBoundary_colon (before : Option Char) :
    isBoundary before (some ':') ↔ wordAt before = true := by
  have colon : wordAt (some ':') = false := by decide +kernel
  rw [isBoundary_iff, colon, Bool.ne_false_iff]

theorem getLast?_or_of_ne_nil {word : List Char} (nonempty : word ≠ []) (before : Option Char) :
    word.getLast?.or before = word.getLast? := by
  rw [List.getLast?_eq_some_getLast nonempty, Option.some_or]

/-- A keyword that agrees with the whole word stands there if the word has its boundaries. -/
theorem stands_whole_iff {spelling word : List Char} (nonempty : word ≠ [])
    (same : Text.sameFolded word spelling) (behind : List Char) :
    Stands spelling (some ' ') (word ++ ':' :: behind) ↔
      wordAt word.head? = true ∧ wordAt word.getLast? = true := by
  rw [stands_def, ← Text.length_eq_of_sameFolded same, List.take_left, List.drop_left,
    List.head?_append_of_ne_nil _ nonempty, getLast?_or_of_ne_nil nonempty, List.head?_cons,
    isBoundary_blank, isBoundary_colon, and_iff_right same]

/-- A shorter keyword stands there if it cuts the word short. -/
theorem stands_front_iff {spelling word : List Char} (occupied : spelling ≠ [])
    (shorter : spelling.length < word.length) (behind : List Char) :
    Stands spelling (some ' ') (word ++ behind) ↔
      wordAt word.head? = true ∧ Cuts spelling word := by
  have positive := List.length_pos_iff.mpr occupied
  have nonempty : word ≠ [] := List.ne_nil_of_length_pos (by omega)
  have front : word.take spelling.length ≠ [] := by
    rw [Ne, List.take_eq_nil_iff]
    exact not_or_intro (by omega) nonempty
  have rest := drop_ne_nil_of_shorter shorter
  rw [stands_def, cuts_iff, List.take_append_of_le_length shorter.le,
    List.drop_append_of_le_length shorter.le, List.head?_append_of_ne_nil _ nonempty,
    List.head?_append_of_ne_nil _ rest, getLast?_or_of_ne_nil front, isBoundary_blank,
    and_iff_right shorter]

/-- A front of a text that holds no sign lies before the first sign. -/
theorem isPrefix_of_append_sign {sign : Char} {part front behind : List Char}
    (leads : part <+: front ++ sign :: behind) (absent : sign ∉ part) : part <+: front := by
  obtain ⟨rest, same⟩ := leads
  rcases List.append_eq_append_iff.mp same with ⟨gap, rfl, -⟩ | ⟨gap, rfl, within⟩
  · exact List.prefix_append part gap
  · rcases List.cons_eq_append_iff.mp within with ⟨rfl, -⟩ | ⟨inner, rfl, -⟩
    · rw [List.append_nil]
    · exact (absent (List.mem_append_right _ List.mem_cons_self)).elim

/-- A part of a text that holds no sign lies on one side of it. -/
theorem isInfix_of_append_sign {sign : Char} {part front behind : List Char}
    (inside : part <:+: front ++ sign :: behind) (absent : sign ∉ part) :
    part <:+: front ∨ part <:+: behind := by
  induction front with
  | nil =>
      rcases List.infix_cons_iff.mp inside with leads | later
      · exact .inl (isPrefix_of_append_sign leads absent).isInfix
      · exact .inr later
  | cons c front ih =>
      rcases List.infix_cons_iff.mp inside with leads | later
      · exact .inl (isPrefix_of_append_sign leads absent).isInfix
      · exact (ih later).imp_left fun early => early.trans (List.suffix_cons c front).isInfix

/-- Of two entries of a list one comes first, unless they are the same. -/
theorem mem_or_eq_or_mem_of_split {α : Type} {first second : α}
    {beforeFirst afterFirst beforeSecond afterSecond : List α}
    (same : beforeFirst ++ first :: afterFirst = beforeSecond ++ second :: afterSecond) :
    first ∈ beforeSecond ∨ first = second ∨ second ∈ beforeFirst := by
  rcases List.append_eq_append_iff.mp same with ⟨gap, rfl, rest⟩ | ⟨gap, rfl, rest⟩
  · rcases List.cons_eq_append_iff.mp rest with ⟨rfl, here⟩ | ⟨inner, rfl, -⟩
    · exact .inr (.inl (List.cons.inj here).1.symm)
    · exact .inl (List.mem_append_right _ List.mem_cons_self)
  · rcases List.cons_eq_append_iff.mp rest with ⟨rfl, here⟩ | ⟨inner, rfl, -⟩
    · exact .inr (.inl (List.cons.inj here).1)
    · exact .inr (.inr (List.mem_append_right _ List.mem_cons_self))

section

variable {spellings : List (List Char)} (single : AreSingle spellings)

include single

/-- A word that a comment names is found where it stands just if it is findable. -/
theorem AreSingle.wholeWord?_eq_self_iff {word : List Char} (listed : word ∈ spellings)
    (behind : List Char) :
    wholeWord? spellings (some ' ') (word ++ ':' :: behind) = some word ↔
      Findable spellings word := by
  have nonempty := (single word listed).1
  constructor
  · intro found
    obtain ⟨earlier, spelling, later, split, stands, front, refused⟩ :=
      wholeWord?_eq_some_iff.mp found
    have same := stands.same
    rw [front] at same
    obtain ⟨opens, closes⟩ := (stands_whole_iff nonempty same behind).mp stands
    refine ⟨opens, closes, ?_⟩
    intro ahead other after cut cuts
    rcases mem_or_eq_or_mem_of_split (cut.symm.trans split) with hidden | rfl | earliest
    · have occupied := (single other (by simp [cut])).1
      have standing := (stands_front_iff occupied cuts.shorter (':' :: behind)).mpr ⟨opens, cuts⟩
      exact (refused other hidden standing).elim
    · have shorter := cuts.shorter
      have length := Text.length_eq_of_sameFolded same
      omega
    · exact ⟨spelling, earliest, same⟩
  · intro findable
    have stands {spelling : List Char} (same : Text.sameFolded word spelling) :
        Stands spelling (some ' ') (word ++ ':' :: behind) :=
      (stands_whole_iff nonempty same behind).mpr ⟨findable.opens, findable.closes⟩
    cases found : wholeWord? spellings (some ' ') (word ++ ':' :: behind) with
    | none =>
        have missing := (wholeWord?_eq_none_iff spellings _ _).mp found word listed
        exact (missing (stands (Text.sameFolded_refl word))).elim
    | some other =>
        obtain ⟨earlier, spelling, later, split, front, rfl, refused⟩ :=
          wholeWord?_eq_some_iff.mp found
        have member : spelling ∈ spellings := by simp [split]
        rcases (single.length_le_of_stands member front).lt_or_eq with shorter | length
        · have cuts := ((stands_front_iff (single spelling member).1 shorter _).mp front).2
          obtain ⟨first, ahead, same⟩ := findable.uncut earlier spelling later split cuts
          exact (refused first ahead (stands same)).elim
        · rw [length, List.take_left]

/-- A word that is found in the comment starts where the keyword does, or lies further behind in the
keyword, or is the letter behind the colon. -/
theorem AreSingle.part_cases {word : List Char} (nonempty : word ≠ []) {hit : Occurrence}
    (part : IsPartFrom spellings ('#' :: ' ' :: (word ++ [':', ' ', 'x'])) 2 hit) :
    (hit.start = 2 ∧ hit.word <+: word) ∨ hit.word <:+: word.tail ∨ hit.word = ['x'] := by
  obtain ⟨reached, located, spelling, listed, same⟩ := part
  have colonless : ':' ∉ hit.word := single.not_mem listed same (by decide +kernel)
  obtain ⟨passed, start⟩ := Nat.exists_eq_add_of_le' reached
  rw [start] at located
  cases passed with
  | zero => exact .inl ⟨start, isPrefix_of_append_sign located colonless⟩
  | succ passed =>
      obtain ⟨c, tail, rfl⟩ := List.exists_cons_of_ne_nil nonempty
      have inside : hit.word <:+: tail ++ ':' :: [' ', 'x'] :=
        located.isInfix.trans (List.drop_suffix passed _).isInfix
      rcases isInfix_of_append_sign inside colonless with early | late
      · exact .inr (.inl early)
      · have blankless : ' ' ∉ hit.word := single.not_mem listed same (by decide +kernel)
        have occupied := Text.ne_nil_of_sameFolded same (single spelling listed).1
        have behind : hit.word <:+: [] ++ ' ' :: ['x'] := late
        rcases isInfix_of_append_sign behind blankless with empty | last
        · exact (occupied (List.infix_nil.mp empty)).elim
        · exact .inr (.inr ((List.sublist_singleton.mp last.sublist).resolve_left occupied))

/-- Of the words found in the comment only the keyword itself has its upper-case form, but for the
letter behind the colon. -/
theorem AreSingle.findable_of_upper_eq {word : List Char} (listed : word ∈ spellings)
    {hit : Occurrence}
    (occurs : hit ∈ wholeWordsFrom spellings (some ' ') 2 false (word ++ [':', ' ', 'x']))
    (same : Text.upper hit.word = Text.upper word) : Findable spellings word := by
  have nonempty := (single word listed).1
  have here : ('#' :: ' ' :: (word ++ [':', ' ', 'x'])).drop 2 = word ++ [':', ' ', 'x'] := rfl
  have part := (spread_wholeWordsFrom _ _ _ _ here).isPartFrom occurs
  rcases single.part_cases nonempty part with ⟨start, leads⟩ | inside | letter
  · have found := wholeWord?_of_mem_wholeWordsFrom here rfl occurs
    rw [start, Text.eq_of_isInfix_of_upper_eq leads.isInfix same] at found
    exact (single.wholeWord?_eq_self_iff listed [' ', 'x']).mp found
  · have whole := Text.eq_of_isInfix_of_upper_eq
      (inside.trans (List.tail_suffix word).isInfix) same
    have shorter := inside.length_le
    have positive := List.length_pos_iff.mpr nonempty
    rw [whole, List.length_tail] at shorter
    omega
  · have capital : Text.upper ['x'] = ['X'] := by decide +kernel
    rw [letter, capital] at same
    apply findable_of_all_isWord (fun other known => (single other known).1) nonempty
    rcases Text.eq_of_upper_eq_x same.symm with small | large
    · rw [small]
      decide +kernel
    · rw [large]
      decide +kernel

/-- Some word that is found in the comment has the upper-case form of the keyword just if that is
findable. -/
theorem AreSingle.exists_upper_eq_iff {word : List Char} (listed : word ∈ spellings) :
    (∃ hit ∈ wholeWordsFrom spellings (some ' ') 2 false (word ++ [':', ' ', 'x']),
      Text.upper hit.word = Text.upper word) ↔ Findable spellings word := by
  constructor
  · intro ⟨hit, occurs, same⟩
    exact single.findable_of_upper_eq listed occurs same
  · intro findable
    have found := (single.wholeWord?_eq_self_iff listed [' ', 'x']).mpr findable
    rw [wholeWordsFrom_of_found found (single word listed).1]
    exact ⟨⟨2, word⟩, List.mem_cons_self, rfl⟩

end

end MarkerReport.Occurrence

namespace MarkerReport.Finding

open Occurrence

/-- A comment that names a keyword has a finding of its kind just if the keyword is findable. -/
theorem exists_mem_inComments_iff {keywords : Keywords} (single : AreSingle keywords.spellings)
    {word : List Char} (listed : word ∈ keywords.spellings) :
    (∃ finding ∈ inComments keywords ('#' :: ' ' :: (word ++ [':', ' ', 'x'])),
      finding.kind = String.ofList (Text.upper word)) ↔ Findable keywords.spellings word := by
  have feedless : '\n' ∉ ' ' :: (word ++ [':', ' ', 'x']) := by
    have absent : '\n' ∉ word :=
      single.not_mem listed (Text.sameFolded_refl word) (by decide +kernel)
    simp [absent]
  rw [inComments, Comment.scan_of_hash feedless, List.flatMap_singleton, exists_mem_inComment_iff,
    wholeWords, wholeWordsFrom_of_missing (single.wholeWord?_sign '#' (by decide +kernel) _ _),
    wholeWordsFrom_of_missing (single.wholeWord?_sign ' ' (by decide +kernel) _ _)]
  simp only [String.ofList_inj]
  exact single.exists_upper_eq_iff listed

end MarkerReport.Finding

namespace MarkerReport.Settings

open Finding

/-- Accepted settings name their keywords, and a comment that names one of these has a finding of
its kind just if the keyword is findable. Keywords that are made of word characters are. -/
theorem keyword_found_iff (settings : Settings) (valid : settings.validate = .ok ())
    (marker : String) (configured : marker ∈ settings.markers) :
    ∃ keywords, settings.keywords = .ok keywords ∧
      ((∃ finding ∈ extract .comment keywords ("# " ++ marker ++ ": x").toList,
        finding.kind = String.ofList (Text.upper marker.toList)) ↔
          Occurrence.Findable keywords.spellings marker.toList) ∧
      (marker.toList.all Text.isWord → Occurrence.Findable keywords.spellings marker.toList) := by
  obtain ⟨keywords, accepted⟩ := exists_keywords_of_validate valid
  have single := areSingle_of_validate valid accepted
  have listed : marker.toList ∈ keywords.spellings := by
    rw [← words_of_keywords accepted] at configured
    exact List.mem_map_of_mem configured
  refine ⟨keywords, accepted, ?_, ?_⟩
  · have source : ("# " ++ marker ++ ": x").toList =
        '#' :: ' ' :: (marker.toList ++ [':', ' ', 'x']) := by
      simp [String.toList_append]
    rw [source]
    exact exists_mem_inComments_iff single listed
  · intro inside
    exact Occurrence.findable_of_all_isWord (fun other known => (single other known).1)
      (single _ listed).1 inside

/-- A keyword with a superscript inside is found before the one that cuts it short, and not behind
it. -/
theorem keyword_found_iff_superscript :
    ({ default with markers := ["x²y", "x"] } : Settings).validate = .ok () ∧
    ({ default with markers := ["x", "x²y"] } : Settings).validate = .ok () ∧
    (∃ finding ∈ extract .comment ⟨["x²y", "x"], by simp⟩ "# x²y: x".toList,
      finding.kind = "X²Y") ∧
    ¬ ∃ finding ∈ extract .comment ⟨["x", "x²y"], by simp⟩ "# x²y: x".toList,
      finding.kind = "X²Y" := by
  have valid : ({ default with markers := ["x²y", "x"] } : Settings).validate = .ok () := by
    decide +kernel
  have alsoValid : ({ default with markers := ["x", "x²y"] } : Settings).validate = .ok () := by
    decide +kernel
  have kind : String.ofList (Text.upper "x²y".toList) = "X²Y" := by decide +kernel
  refine ⟨valid, alsoValid, ?_, ?_⟩
  · obtain ⟨_, accepted, found, -⟩ := keyword_found_iff _ valid "x²y" (by simp)
    obtain rfl := Except.ok.inj accepted
    rw [kind] at found
    refine found.mpr ⟨by decide +kernel, by decide +kernel, ?_⟩
    intro earlier other later split cuts
    rcases List.cons_eq_append_iff.mp split with ⟨rfl, here⟩ | ⟨inner, rfl, -⟩
    · obtain ⟨rfl, -⟩ := List.cons.inj here
      exact (Nat.lt_irrefl _ cuts.shorter).elim
    · exact ⟨"x²y".toList, List.mem_cons_self, by decide +kernel⟩
  · obtain ⟨_, accepted, found, -⟩ := keyword_found_iff _ alsoValid "x²y" (by simp)
    obtain rfl := Except.ok.inj accepted
    rw [kind] at found
    intro reported
    have cuts : Occurrence.Cuts "x".toList "x²y".toList :=
      ⟨by decide, by decide +kernel, by decide +kernel⟩
    obtain ⟨_, missing, -⟩ := (found.mp reported).uncut [] "x".toList ["x²y".toList] rfl cuts
    exact List.not_mem_nil missing

/-- A superscript is accepted as a keyword, and not found. -/
theorem keyword_found_fails :
    ({ default with markers := ["²"] } : Settings).validate = .ok () ∧
    ({ default with markers := ["²"] } : Settings).keywords = .ok ⟨["²"], by simp⟩ ∧
    String.ofList (Text.upper "²".toList) = "²" ∧
    ¬ ∃ finding ∈ extract .comment ⟨["²"], by simp⟩ "# ²: x".toList, finding.kind = "²" := by
  have kind : String.ofList (Text.upper "²".toList) = "²" := by decide +kernel
  have valid : ({ default with markers := ["²"] } : Settings).validate = .ok () := by
    decide +kernel
  have accepted : ({ default with markers := ["²"] } : Settings).keywords =
      .ok ⟨["²"], by simp⟩ := by decide +kernel
  refine ⟨valid, accepted, kind, ?_⟩
  intro reported
  rw [← kind] at reported
  have single := areSingle_of_validate valid accepted
  have findable := (exists_mem_inComments_iff single List.mem_cons_self).mp reported
  exact absurd findable.opens (by decide +kernel)

end MarkerReport.Settings
