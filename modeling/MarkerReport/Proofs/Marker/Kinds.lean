import MarkerReport.Proofs.Comment.Grammar
import MarkerReport.Proofs.Marker.Words
import MarkerReport.Proofs.Text.Capitals
import MarkerReport.Settings

/-! # Kinds of findings

The kind of a finding is the upper-case form of a word that agrees with a keyword up to case. That
need not be the upper-case form of a keyword, because a word is recognised by the folding of its
characters and reported by their capitals: `HACK` with the Kelvin sign in place of the K is found
for the keyword `HACK`, and is reported as it stands.

Kinds are upper-case forms of keywords whenever no keyword has a character that agrees with a stray
(`MarkerReport.Text.strays`). In general they are just if every word that agrees with a keyword has
the upper-case form of one (`MarkerReport.Settings.kinds_configured`).
-/

namespace MarkerReport.Finding

open Occurrence

/-- A word the search of a line stops at folds to some spelling of the list. -/
theorem exists_spelling_of_firstFrom? {spellings : List (List Char)} {offset : Nat}
    {cs : List Char} {hit : Occurrence} (found : firstFrom? spellings offset cs = some hit) :
    ∃ spelling ∈ spellings, Text.sameFolded hit.word spelling := by
  fun_induction firstFrom? spellings offset cs with
  | case1 cs offset word spelled =>
      obtain rfl := Option.some.inj found
      obtain ⟨spelling, member, same, -⟩ := exists_of_spelled? spelled
      exact ⟨spelling, member, same⟩
  | case2 => simp at found
  | case3 offset c rest missing ih => exact ih found

/-- A word that a keyword is recognised in, and the kind that is reported for it. -/
def IsKindOf (keywords : Keywords) (word : List Char) (kind : String) : Prop :=
  (∃ spelling ∈ keywords.spellings, Text.sameFolded word spelling) ∧
    kind = String.ofList (Text.upper word)

/-- The kinds of the findings in a comment are the upper-case forms of the words found. -/
theorem exists_mem_inComment_iff (keywords : Keywords) (comment : Comment) (kind : String) :
    (∃ finding ∈ inComment keywords comment, finding.kind = kind) ↔
      ∃ hit ∈ wholeWords keywords comment.text, String.ofList (Text.upper hit.word) = kind := by
  have kinds := congrArg (List.map Prod.snd) (ofOccurrences_map comment.line comment.text
    (wholeWords keywords comment.text))
  rw [List.map_map, List.map_map] at kinds
  have listed := congrArg (kind ∈ ·) kinds
  simp only [List.mem_map, Function.comp_apply, eq_iff_iff] at listed
  exact listed

/-- The kind of a finding in a comment is the upper case of a word that folds to a keyword. -/
theorem exists_word_of_mem_inComment {keywords : Keywords} {comment : Comment} {finding : Finding}
    (member : finding ∈ inComment keywords comment) :
    ∃ word, IsKindOf keywords word finding.kind := by
  obtain ⟨hit, occurs, kind⟩ :=
    (exists_mem_inComment_iff keywords comment finding.kind).mp ⟨finding, member, rfl⟩
  exact ⟨hit.word, ((spread_wholeWords keywords comment.text).isPartFrom occurs).spelled, kind.symm⟩

/-- The kind of a finding on a line is the upper case of a word that folds to a keyword. -/
theorem exists_word_of_onLine? {keywords : Keywords} {number : Nat} {line : List Char}
    {finding : Finding} (found : onLine? keywords number line = some finding) :
    ∃ word, IsKindOf keywords word finding.kind := by
  unfold onLine? at found
  split at found
  · simp at found
  · rename_i hit first
    split at found
    · simp at found
    · split at found
      · obtain rfl := Option.some.inj found
        exact ⟨hit.word, exists_spelling_of_firstFrom? first, rfl⟩
      · simp at found

/-- The kinds of the findings on the lines of a source all come from words that fold to keywords. -/
theorem exists_word_of_mem_onLinesFrom {keywords : Keywords} {number : Nat}
    {texts : List (List Char)} {finding : Finding}
    (member : finding ∈ onLinesFrom keywords number texts) :
    ∃ word, IsKindOf keywords word finding.kind := by
  induction texts generalizing number with
  | nil => simp [onLinesFrom] at member
  | cons line later ih =>
      rw [onLinesFrom, List.mem_append, Option.mem_toList] at member
      rcases member with here | below
      · exact exists_word_of_onLine? here
      · exact ih below

/-- Under both policies a kind is the upper-case form of a word that agrees with a keyword. -/
theorem exists_word_of_mem_extract {policy : Policy} {keywords : Keywords} {source : List Char}
    {finding : Finding} (member : finding ∈ extract policy keywords source) :
    ∃ word, IsKindOf keywords word finding.kind := by
  cases policy with
  | comment =>
      obtain ⟨comment, -, inside⟩ := List.mem_flatMap.mp member
      exact exists_word_of_mem_inComment inside
  | line => exact exists_word_of_mem_onLinesFrom member

/-- Conversely, a word that agrees with a keyword is found in a comment that holds nothing else. -/
theorem exists_mem_inComments {keywords : Keywords} (areWords : keywords.AreWords)
    {word : List Char} {kind : String} (reported : IsKindOf keywords word kind) :
    ∃ source, ∃ finding ∈ inComments keywords source, finding.kind = kind := by
  obtain ⟨⟨spelling, listed, same⟩, rfl⟩ := reported
  obtain ⟨nonempty, inside⟩ := areWords spelling listed
  rw [← Text.all_isWord_eq_of_sameFolded same] at inside
  have occupied := Text.ne_nil_of_sameFolded same nonempty
  have feedless : '\n' ∉ ' ' :: word := by
    apply List.not_mem_cons_of_ne_of_not_mem (by decide)
    intro within
    exact absurd (List.all_eq_true.mp inside '\n' within) (by decide +kernel)
  have isWord : IsWordOf (['#', ' '] ++ word) ⟨2, word⟩ := by
    apply (isWordOf_iff_of_start ['#', ' '] word word).mpr
    refine ⟨⟨by decide +kernel, ?_⟩, ?_⟩
    · simpa using wordAt_head?_of_all occupied inside []
    · exact (List.takeWhile_eq_self_iff.mpr (List.all_eq_true.mp inside)).symm
  have occurs : ⟨2, word⟩ ∈ wholeWords keywords (['#', ' '] ++ word) := by
    rw [areWords.wholeWords_eq, List.mem_filter, mem_words_iff, List.any_eq_true]
    exact ⟨isWord, spelling, listed, same⟩
  refine ⟨['#', ' '] ++ word, ?_⟩
  rw [inComments, List.cons_append, List.singleton_append, Comment.scan_of_hash feedless,
    List.flatMap_singleton, exists_mem_inComment_iff]
  exact ⟨⟨2, word⟩, occurs, rfl⟩

end MarkerReport.Finding

namespace MarkerReport.Keywords

/-- No keyword has a character that agrees with a stray. -/
def Regular (keywords : Keywords) : Prop :=
  ∀ spelling ∈ keywords.spellings, ∀ c ∈ spelling, Text.fold c ∉ Text.strays.map Text.fold

/-- The upper-case form of every word that agrees with a keyword is that of a keyword. -/
def CapitalsListed (keywords : Keywords) : Prop :=
  ∀ spelling ∈ keywords.spellings, ∀ word, Text.sameFolded word spelling →
    ∃ other ∈ keywords.spellings, Text.upper word = Text.upper other

-- Left to itself, instance search decides a statement on all characters by trying each of them.
instance (keywords : Keywords) : Decidable keywords.Regular :=
  decidable_of_iff (keywords.spellings.all fun spelling =>
      spelling.all fun c => !(Text.strays.map Text.fold).contains (Text.fold c)) (by
    simp only [Regular, List.all_eq_true, Bool.not_eq_true', List.contains_eq_mem,
      decide_eq_false_iff_not])

/-- Where no character of a keyword folds as a stray does, every word that folds to a keyword has
its capitals. -/
theorem Regular.capitalsListed {keywords : Keywords} (regular : keywords.Regular) :
    keywords.CapitalsListed := by
  intro spelling listed word same
  exact ⟨spelling, listed, Text.upper_eq_of_sameFolded same (regular spelling listed)⟩

end MarkerReport.Keywords

namespace MarkerReport.Settings

open Finding

/-- Validated settings have single words for keywords. -/
theorem areSingle_of_validate {settings : Settings} (valid : settings.validate = .ok ())
    {keywords : Keywords} (accepted : settings.keywords = .ok keywords) :
    Occurrence.AreSingle keywords.spellings :=
  fun _ listed => word_of_mem_spellings valid accepted listed

/-- A kind holds no sign of ASCII that a keyword may not hold. -/
theorem not_mem_kind_of_mem_extract {settings : Settings} (valid : settings.validate = .ok ())
    {keywords : Keywords} (accepted : settings.keywords = .ok keywords) {policy : Policy}
    {source : List Char} {finding : Finding} (member : finding ∈ extract policy keywords source)
    {sign : Char} (apart : (Text.isAlphanumeric sign || sign == '_') = false)
    (other : ¬ Text.IsCapitalCode sign.toNat) : sign ∉ finding.kind.toList := by
  obtain ⟨word, ⟨spelling, listed, same⟩, kind⟩ := exists_word_of_mem_extract member
  rw [kind, String.toList_ofList]
  exact Text.not_mem_upper other
    ((areSingle_of_validate valid accepted).not_mem listed same apart)

/-- The keywords to look for, in upper case. -/
def kinds (settings : Settings) : List String :=
  settings.markers.map fun marker => String.ofList (Text.upper marker.toList)

/-- The upper case of a word is a configured kind exactly when it is that of a keyword. -/
theorem mem_kinds_iff {settings : Settings} {keywords : Keywords}
    (accepted : settings.keywords = .ok keywords) (word : List Char) :
    String.ofList (Text.upper word) ∈ settings.kinds ↔
      ∃ spelling ∈ keywords.spellings, Text.upper word = Text.upper spelling := by
  rw [kinds, ← words_of_keywords accepted, List.mem_map]
  constructor
  · rintro ⟨marker, listed, same⟩
    exact ⟨marker.toList, List.mem_map_of_mem listed, (String.ofList_inj.mp same).symm⟩
  · rintro ⟨spelling, listed, same⟩
    obtain ⟨marker, configured, rfl⟩ := List.mem_map.mp listed
    exact ⟨marker, configured, congrArg String.ofList same.symm⟩

/-- Where the keywords have the upper-case forms of all words that agree with them, every kind that
is reported is a keyword in upper case. That is so for keywords without a character that agrees with
a stray, and for keywords that are words it is the only way. -/
theorem kinds_configured (settings : Settings) (keywords : Keywords)
    (accepted : settings.keywords = .ok keywords) :
    (keywords.Regular → keywords.CapitalsListed) ∧
    (keywords.CapitalsListed → ∀ policy source, ∀ finding ∈ extract policy keywords source,
      finding.kind ∈ settings.kinds) ∧
    (keywords.AreWords → (∀ source, ∀ finding ∈ extract .comment keywords source,
      finding.kind ∈ settings.kinds) → keywords.CapitalsListed) := by
  refine ⟨Keywords.Regular.capitalsListed, ?_, ?_⟩
  · intro capitals policy source finding member
    obtain ⟨word, ⟨spelling, listed, same⟩, kind⟩ := exists_word_of_mem_extract member
    rw [kind]
    exact (mem_kinds_iff accepted word).mpr (capitals spelling listed word same)
  · intro areWords configured spelling listed word same
    obtain ⟨source, finding, member, kind⟩ :=
      exists_mem_inComments areWords ⟨⟨spelling, listed, same⟩, rfl⟩
    have known := configured source finding member
    rw [kind] at known
    exact (mem_kinds_iff accepted word).mp known

/-- A final sigma and a long s are capitals of the same letters as the usual ones. -/
theorem kinds_configured_sigma :
    ({ default with markers := ["σημα", "ToDos"] } : Settings).keywords =
      .ok ⟨["σημα", "ToDos"], by simp⟩ ∧
    (⟨["σημα", "ToDos"], by simp⟩ : Keywords).Regular ∧
    Text.sameFolded "ςΗΜΑ".toList "σημα".toList ∧ Text.sameFolded "todoſ".toList "ToDos".toList ∧
    ∀ policy source, ∀ finding ∈ extract policy ⟨["σημα", "ToDos"], by simp⟩ source,
      finding.kind ∈ ["ΣΗΜΑ", "TODOS"] := by
  have accepted : ({ default with markers := ["σημα", "ToDos"] } : Settings).keywords =
      .ok ⟨["σημα", "ToDos"], by simp⟩ := by decide +kernel
  have regular : (⟨["σημα", "ToDos"], by simp⟩ : Keywords).Regular := by decide +kernel
  have kinds : ({ default with markers := ["σημα", "ToDos"] } : Settings).kinds =
      ["ΣΗΜΑ", "TODOS"] := by decide +kernel
  obtain ⟨listed, configured, -⟩ := kinds_configured _ _ accepted
  rw [kinds] at configured
  exact ⟨accepted, regular, by decide +kernel, by decide +kernel, configured (listed regular)⟩

/-- The Kelvin sign agrees with the letter k, and is reported in its place. -/
theorem kinds_configured_fails :
    ({ default with markers := ["HACK"] } : Settings).validate = .ok () ∧
    ({ default with markers := ["HACK"] } : Settings).keywords = .ok ⟨["HACK"], by simp⟩ ∧
    extract .comment ⟨["HACK"], by simp⟩ "# HAC\u212a: x".toList = [⟨1, "HAC\u212a", "x"⟩] ∧
    "HAC\u212a" ∉ ({ default with markers := ["HACK"] } : Settings).kinds := by
  have areWords : (⟨["HACK"], by simp⟩ : Keywords).AreWords := by decide +kernel
  refine ⟨by decide +kernel, by decide +kernel, ?_, by decide +kernel⟩
  simp only [extract, inComments, inComment_eq_of_areWords areWords]
  decide +kernel

end MarkerReport.Settings
