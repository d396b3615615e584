import MarkerReport.Proofs.Command.Merging
import MarkerReport.Proofs.Marker.FirstMatch
import MarkerReport.Proofs.Text.Folding

/-! # Keywords that a command line repeats

A keyword on a command line is left out if one is there already that differs from it only in the
case of ASCII letters. That makes no difference to what is found
(`MarkerReport.Settings.extract_merge`): the findings are those of a search with all the keywords,
the ones of the command line behind the others.

A search asks the keywords one after the other whether they match at a place, and goes by their
folded forms alone. A keyword that is left out has the folded form of an earlier one, so wherever it
matches the earlier one is taken before it is asked. Which searches there are does not matter for
this; the argument is one about choices from a list (`MarkerReport.Occurrence.ChooseAlike`).
-/

namespace MarkerReport.Text

/-- A capital letter of ASCII folds as its small letter does. -/
theorem fold_toLower_of_upper : ∀ code ∈ List.range' 0x41 26,
    fold (Char.ofNat code).toLower = fold (Char.ofNat code) := by
  decide +kernel

/-- Folding does not tell an ASCII letter in lower case from the one in upper case. -/
theorem fold_toLower (c : Char) : fold c.toLower = fold c := by
  by_cases upper : c.val ≥ 'A'.val ∧ c.val ≤ 'Z'.val
  · have code : c.toNat ∈ List.range' 0x41 26 := by
      have above : 0x41 ≤ c.toNat := upper.1
      have below : c.toNat ≤ 0x5a := upper.2
      rw [List.mem_range'_1]
      omega
    rw [← Char.ofNat_toNat c]
    exact fold_toLower_of_upper c.toNat code
  · have unchanged : c.toLower = c := dif_neg upper
    rw [unchanged]

/-- Small letters of ASCII in place of capital ones change nothing for folding. -/
theorem map_fold_asciiLower (text : String) :
    (asciiLower text).toList.map fold = text.toList.map fold := by
  rw [asciiLower, String.toList_map, List.map_map]
  exact List.map_congr_left fun c _ => fold_toLower c

/-- Texts that agree up to the case of ASCII letters agree up to case. -/
theorem sameFolded_of_asciiLower_eq {left right : String}
    (same : asciiLower left = asciiLower right) : sameFolded left.toList right.toList := by
  rw [sameFolded_iff, ← map_fold_asciiLower left, same, map_fold_asciiLower]

end MarkerReport.Text

namespace MarkerReport.Occurrence

/-- A choice that makes no difference between keywords that agree up to case. -/
def GoesByFolding (choice : List Char → Option (List Char)) : Prop :=
  ∀ first second, Text.sameFolded first second → choice first = choice second

/-- Two lists of keywords from which every choice by folded forms takes the same. -/
def ChooseAlike (left right : List (List Char)) : Prop :=
  ∀ choice, GoesByFolding choice → left.findSome? choice = right.findSome? choice

/-- Keywords that agree up to case agree so with the same words. -/
theorem sameFolded_congr_right {first second : List Char} (same : Text.sameFolded first second)
    (word : List Char) : Text.sameFolded word first = Text.sameFolded word second := by
  unfold Text.sameFolded
  rw [(Text.sameFolded_iff first second).mp same]

section

variable {left right : List (List Char)} (alike : ChooseAlike left right)

include alike

/-- Lists that choose alike find the same keyword at the start of a text. -/
theorem ChooseAlike.spelled?_eq (cs : List Char) : spelled? left cs = spelled? right cs := by
  apply alike
  intro first second same
  simp only [Text.length_eq_of_sameFolded same, sameFolded_congr_right same]

/-- Lists that choose alike find the same whole word at the start of a text. -/
theorem ChooseAlike.wholeWord?_eq (before : Option Char) (cs : List Char) :
    wholeWord? left before cs = wholeWord? right before cs := by
  unfold wholeWord?
  congr 1
  apply alike
  intro first second same
  simp only [Text.length_eq_of_sameFolded same, sameFolded_congr_right same]

/-- A search for whole words goes on in the same way after every step. -/
theorem ChooseAlike.wholeWordsFrom_eq (before : Option Char) (offset : Nat) (follows : Bool)
    (cs : List Char) :
    wholeWordsFrom left before offset follows cs =
      wholeWordsFrom right before offset follows cs := by
  fun_induction wholeWordsFrom left before offset follows cs with
  | case1 before offset follows found =>
      rw [alike.wholeWord?_eq] at found
      rw [wholeWordsFrom, if_pos found]
  | case2 before offset follows missing =>
      rw [alike.wholeWord?_eq] at missing
      rw [wholeWordsFrom, if_neg missing]
  | case3 before offset follows c rest missing ih =>
      rw [alike.wholeWord?_eq] at missing
      rw [wholeWordsFrom, missing, ih]
  | case4 before offset c rest found ih =>
      rw [alike.wholeWord?_eq] at found
      rw [wholeWordsFrom, found, ih]
      rfl
  | case5 before offset follows c rest found apart ih =>
      rw [alike.wholeWord?_eq] at found
      rw [ih]
      conv_rhs => rw [wholeWordsFrom, found]
      exact (if_neg apart).symm
  | case6 before offset follows c rest d word found ih =>
      rw [alike.wholeWord?_eq] at found
      rw [wholeWordsFrom, found, ih]

/-- Lists that choose alike have the same first match. -/
theorem ChooseAlike.firstFrom?_eq (offset : Nat) (cs : List Char) :
    firstFrom? left offset cs = firstFrom? right offset cs := by
  induction cs generalizing offset with
  | nil => rw [firstFrom?, firstFrom?, alike.spelled?_eq]
  | cons c rest ih => rw [firstFrom?, firstFrom?, alike.spelled?_eq, ih]

end

end MarkerReport.Occurrence

namespace MarkerReport.Finding

open Occurrence

/-- Keywords that choose alike give the same findings, under either policy. -/
theorem extract_of_chooseAlike {left right : Keywords}
    (alike : ChooseAlike left.spellings right.spellings) (policy : Policy) (source : List Char) :
    extract policy left source = extract policy right source := by
  cases policy with
  | comment =>
      have comments : inComment left = inComment right := by
        funext comment
        rw [inComment, inComment, wholeWords, wholeWords, alike.wholeWordsFrom_eq]
      change (Comment.scan source).flatMap (inComment left) = _
      rw [comments]
      rfl
  | line =>
      have lines : onLine? left = onLine? right := by
        funext number line
        rw [onLine?, onLine?, first?, first?, alike.firstFrom?_eq]
      change onLinesFrom left 1 (Text.lines source) = onLinesFrom right 1 (Text.lines source)
      rw [onLinesFrom_eq_filterMap, onLinesFrom_eq_filterMap, lines]

end MarkerReport.Finding

namespace MarkerReport.Settings

section

variable {α β κ : Type} [DecidableEq κ] {key : α → κ} {choice : α → Option β}
  (byKey : ∀ first second, key first = key second → choice first = choice second)

include byKey

/-- A value that is left out is never chosen: one with its key is there before it. -/
theorem findSome?_addNew (list : List α) (value : α) :
    (addNew key id list value).findSome? choice = (list ++ [value]).findSome? choice := by
  rcases addNew_cases key id list value with ⟨⟨other, listed, same⟩, unchanged⟩ | ⟨-, added⟩
  · rw [unchanged, List.findSome?_append]
    cases chosen : list.findSome? choice with
    | some result => rfl
    | none =>
        have refused : choice value = none := by
          rw [← byKey other value same]
          exact List.findSome?_eq_none_iff.mp chosen other listed
        rw [Option.none_or, List.findSome?_singleton, refused]
  · rw [added, id]

/-- A choice that a key settles does not see that repeated keys have been left out. -/
theorem findSome?_foldl_addNew (list values : List α) :
    (values.foldl (addNew key id) list).findSome? choice =
      (list ++ values).findSome? choice := by
  induction values generalizing list with
  | nil => rw [List.foldl_nil, List.append_nil]
  | cons value later ih =>
      rw [List.foldl_cons, ih, List.findSome?_append, findSome?_addNew byKey,
        ← List.findSome?_append, List.append_assoc, List.singleton_append]

end

/-- The settings with the keywords of a command line behind their own, repeated ones and all. -/
def withMarkers (settings : Settings) (request : ScanRequest) : Settings :=
  { settings with markers := settings.markers ++ request.markers }

/-- Leaving out what is repeated leaves no keywords only if there were none. -/
theorem markers_merge_eq_nil_iff (settings : Settings) (request : ScanRequest) :
    (settings.merge request).markers = [] ↔ (settings.withMarkers request).markers = [] := by
  have present (list : List String) : list.findSome? (fun _ => some ()) = none ↔ list = [] := by
    cases list with
    | nil => exact iff_of_true rfl rfl
    | cons first later => exact iff_of_false nofun nofun
  rw [← present, ← present, merge_eq, withMarkers, findSome?_foldl_addNew fun _ _ _ => rfl]

/-- The merged keywords choose as all keywords in a row do. -/
theorem chooseAlike_merge (settings : Settings) (request : ScanRequest) :
    Occurrence.ChooseAlike ((settings.merge request).markers.map String.toList)
      ((settings.withMarkers request).markers.map String.toList) := by
  intro choice folding
  rw [List.findSome?_map, List.findSome?_map, merge_eq, withMarkers]
  apply findSome?_foldl_addNew
  intro first second same
  exact folding first.toList second.toList (Text.sameFolded_of_asciiLower_eq same)

/-- Whether the keywords of a command line that are there already are left out or not, the findings
of every text are the same under both policies. There are no keywords to search for in one case just
if there are none in the other, that is if neither the settings nor the command line has any. -/
theorem extract_merge (settings : Settings) (request : ScanRequest) :
    ((settings.merge request).keywords = .error .noKeywords ↔
      settings.markers ++ request.markers = []) ∧
    ((settings.withMarkers request).keywords = .error .noKeywords ↔
      settings.markers ++ request.markers = []) ∧
    ∀ policy source,
      (settings.merge request).keywords.map (Finding.extract policy · source) =
        (settings.withMarkers request).keywords.map (Finding.extract policy · source) := by
  have missing : (settings.merge request).keywords = .error .noKeywords ↔
      settings.markers ++ request.markers = [] :=
    (keywords_eq_error_iff _).trans (markers_merge_eq_nil_iff settings request)
  refine ⟨missing, keywords_eq_error_iff _, fun policy source => ?_⟩
  by_cases unmarked : settings.markers ++ request.markers = []
  · rw [missing.mpr unmarked, (keywords_eq_error_iff (settings.withMarkers request)).mpr unmarked]
  · obtain ⟨all, read⟩ := (exists_keywords_iff (settings.withMarkers request)).mpr unmarked
    obtain ⟨kept, accepted⟩ := (exists_keywords_iff (settings.merge request)).mpr fun empty =>
      unmarked ((markers_merge_eq_nil_iff settings request).mp empty)
    have alike : Occurrence.ChooseAlike kept.spellings all.spellings := by
      rw [Keywords.spellings, words_of_keywords accepted, Keywords.spellings,
        words_of_keywords read]
      exact chooseAlike_merge settings request
    rw [accepted, read, Except.map, Except.map, Finding.extract_of_chooseAlike alike]

end MarkerReport.Settings
