import Mathlib.Data.List.Infix
import MarkerReport.Marker.Occurrence
import MarkerReport.Proofs.Text.Folding

/-! # Occurrences of any keywords

Facts that hold of the occurrences in a text whatever the keywords are, be they empty or made of
characters of any class: each occurrence is a part of the text, agrees with a keyword up to case,
and ends before the next one starts.
-/

namespace MarkerReport.Occurrence

/-- The keyword leads the text up to case, with a boundary at both of its ends. -/
@[mk_iff stands_def]
structure Stands (spelling : List Char) (before : Option Char) (cs : List Char) : Prop where
  opens : isBoundary before cs.head?
  same : Text.sameFolded (cs.take spelling.length) spelling
  closes : isBoundary ((cs.take spelling.length).getLast?.or before)
    (cs.drop spelling.length).head?

/-- No keyword is found at a place exactly where none stands as a whole word. -/
theorem wholeWord?_eq_none_iff (spellings : List (List Char)) (before : Option Char)
    (cs : List Char) :
    wholeWord? spellings before cs = none ↔
      ∀ spelling ∈ spellings, ¬ Stands spelling before cs := by
  unfold wholeWord?
  split
  · rename_i opens
    simp only [List.findSome?_eq_none_iff, ite_eq_right_iff, Bool.and_eq_true, reduceCtorEq,
      imp_false, stands_def, opens, true_and]
  · rename_i closed
    exact ⟨fun _ spelling _ stands => closed stands.opens, fun _ => rfl⟩

/-- The keyword found is the first one that stands here. -/
theorem wholeWord?_eq_some_iff {spellings : List (List Char)} {before : Option Char}
    {cs word : List Char} :
    wholeWord? spellings before cs = some word ↔
      ∃ earlier spelling later, spellings = earlier ++ spelling :: later ∧
        Stands spelling before cs ∧ cs.take spelling.length = word ∧
        ∀ other ∈ earlier, ¬ Stands other before cs := by
  unfold wholeWord?
  split
  · rename_i opens
    simp only [List.findSome?_eq_some_iff, Option.ite_none_right_eq_some, ite_eq_right_iff,
      Bool.and_eq_true, Option.some.injEq, reduceCtorEq, imp_false, stands_def, opens, true_and,
      and_assoc]
  · rename_i closed
    refine iff_of_false nofun ?_
    rintro ⟨_, _, _, -, stands, -⟩
    exact closed stands.opens

/-- A keyword found at a place stands there as a whole word, spelled as the text has it. -/
theorem exists_stands_of_wholeWord? {spellings : List (List Char)} {before : Option Char}
    {cs word : List Char} (found : wholeWord? spellings before cs = some word) :
    ∃ spelling ∈ spellings, Stands spelling before cs ∧ cs.take spelling.length = word := by
  obtain ⟨earlier, spelling, later, rfl, stands, front, -⟩ := wholeWord?_eq_some_iff.mp found
  exact ⟨spelling, by simp, stands, front⟩

/-- What is found at the head of a line is the text's own spelling of some keyword. -/
theorem exists_of_spelled? {spellings : List (List Char)} {cs word : List Char}
    (found : spelled? spellings cs = some word) :
    ∃ spelling ∈ spellings, Text.sameFolded word spelling ∧ cs.take spelling.length = word := by
  obtain ⟨spelling, member, chosen⟩ := List.exists_of_findSome?_eq_some found
  obtain ⟨same, front⟩ := Option.ite_none_right_eq_some.mp chosen
  obtain rfl := Option.some.inj front
  exact ⟨spelling, member, same, rfl⟩

/-- Every keyword is a single word, of letters, numbers and underscores. -/
def AreSingle (spellings : List (List Char)) : Prop :=
  ∀ spelling ∈ spellings, spelling ≠ [] ∧ ∀ c ∈ spelling, Text.isAlphanumeric c || c == '_'

/-- A word that agrees with such a keyword holds no other signs. -/
theorem AreSingle.not_mem {spellings : List (List Char)} (single : AreSingle spellings)
    {spelling word : List Char} (listed : spelling ∈ spellings)
    (same : Text.sameFolded word spelling) {sign : Char}
    (apart : (Text.isAlphanumeric sign || sign == '_') = false) : sign ∉ word := by
  rw [Text.isAlphanumeric, Bool.or_eq_false_iff, Bool.or_eq_false_iff] at apart
  apply Text.not_mem_of_sameFolded apart.1.1 same
  intro within
  have allowed := (single spelling listed).2 sign within
  simp [Text.isAlphanumeric, apart] at allowed

/-- A part of the text from `offset` on that agrees with a keyword. -/
structure IsPartFrom (spellings : List (List Char)) (text : List Char) (offset : Nat)
    (hit : Occurrence) : Prop where
  reached : offset ≤ hit.start
  located : hit.word <+: text.drop hit.start
  spelled : ∃ spelling ∈ spellings, Text.sameFolded hit.word spelling

/-- Parts of the text that agree with keywords, each of which starts where the one before it has
ended, or later. -/
inductive Spread (spellings : List (List Char)) (text : List Char) : Nat → List Occurrence → Prop
  | nil (offset : Nat) : Spread spellings text offset []
  | cons {offset : Nat} {hit : Occurrence} {later : List Occurrence}
      (part : IsPartFrom spellings text offset hit) (rest : Spread spellings text hit.stop later) :
      Spread spellings text offset (hit :: later)

section

variable {spellings : List (List Char)} {text : List Char}

/-- Hits spread behind a place are spread behind every earlier one. -/
theorem Spread.mono {first second : Nat} {hits : List Occurrence}
    (spread : Spread spellings text second hits) (order : first ≤ second) :
    Spread spellings text first hits := by
  cases spread with
  | nil => exact .nil first
  | cons part rest => exact .cons ⟨order.trans part.reached, part.located, part.spelled⟩ rest

/-- Every hit of a spread list is a part of the text behind its start. -/
theorem Spread.isPartFrom {offset : Nat} {hits : List Occurrence}
    (spread : Spread spellings text offset hits) {hit : Occurrence} (member : hit ∈ hits) :
    IsPartFrom spellings text offset hit := by
  induction spread with
  | nil => simp at member
  | @cons offset first later part rest ih =>
      rcases List.mem_cons.mp member with rfl | behind
      · exact part
      · have further := ih behind
        have order : offset ≤ first.stop := part.reached.trans (Nat.le_add_right _ _)
        exact ⟨order.trans further.reached, further.located, further.spelled⟩

/-- A keyword found at an offset is a part of the text there. -/
theorem isPartFrom_of_wholeWord? {offset : Nat} {before : Option Char} {word : List Char}
    (found : wholeWord? spellings before (text.drop offset) = some word) :
    IsPartFrom spellings text offset ⟨offset, word⟩ := by
  obtain ⟨spelling, member, stands, rfl⟩ := exists_stands_of_wholeWord? found
  exact ⟨le_rfl, List.take_prefix _ _, spelling, member, stands.same⟩

theorem drop_succ_of_cons {text rest : List Char} {offset : Nat} {c : Char}
    (here : text.drop offset = c :: rest) : text.drop (offset + 1) = rest := by
  rw [← List.drop_drop, here, List.drop_one, List.tail_cons]

/-- The occurrences in the rest of a text are parts of it that agree with keywords, and do not
overlap. -/
theorem spread_wholeWordsFrom (before : Option Char) (offset : Nat) (follows : Bool)
    (cs : List Char) (here : text.drop offset = cs) :
    Spread spellings text offset (wholeWordsFrom spellings before offset follows cs) := by
  fun_induction wholeWordsFrom spellings before offset follows cs with
  | case1 before offset follows found =>
      rw [Bool.and_eq_true, Option.isSome_iff_exists] at found
      obtain ⟨-, word, found⟩ := found
      obtain ⟨spelling, -, -, rfl⟩ := exists_stands_of_wholeWord? found
      rw [List.take_nil] at found
      exact .cons (isPartFrom_of_wholeWord? (by rw [here, found])) (.nil _)
  | case2 before offset follows missing => exact .nil offset
  | case3 before offset follows c rest missing ih =>
      exact (ih (drop_succ_of_cons here)).mono (Nat.le_succ offset)
  | case4 before offset c rest found ih =>
      exact (ih (drop_succ_of_cons here)).mono (Nat.le_succ offset)
  | case5 before offset follows c rest found apart ih =>
      rw [← here] at found
      exact .cons (isPartFrom_of_wholeWord? found) (ih here)
  | case6 before offset follows c rest d word found ih =>
      rw [← here] at found
      refine .cons (isPartFrom_of_wholeWord? found) (ih ?_)
      rw [← List.drop_drop, here, List.length_cons, List.drop_succ_cons]

/-- Behind a word, the character passed last is the word's last one. -/
theorem getLast?_take_of_drop_eq {offset : Nat} {word behind : List Char} (nonempty : word ≠ [])
    (here : text.drop offset = word ++ behind) :
    (text.take (offset + word.length)).getLast? = word.getLast? := by
  rw [List.take_add, here, List.take_left, List.getLast?_append_of_ne_nil _ nonempty]

/-- An occurrence is what is found at the place where it starts, with the character before it. -/
theorem wholeWord?_of_mem_wholeWordsFrom {before : Option Char} {offset : Nat} {follows : Bool}
    {cs : List Char} (here : text.drop offset = cs) (last : (text.take offset).getLast? = before)
    {hit : Occurrence} (member : hit ∈ wholeWordsFrom spellings before offset follows cs) :
    wholeWord? spellings (text.take hit.start).getLast? (text.drop hit.start) = some hit.word := by
  fun_induction wholeWordsFrom spellings before offset follows cs with
  | case1 before offset follows found =>
      rw [Bool.and_eq_true, Option.isSome_iff_exists] at found
      obtain ⟨-, word, found⟩ := found
      obtain ⟨spelling, -, -, rfl⟩ := exists_stands_of_wholeWord? found
      obtain rfl := List.mem_singleton.mp member
      rw [here, last, found, List.take_nil]
  | case2 before offset follows missing => cases member
  | case3 before offset follows c rest missing ih =>
      exact ih (drop_succ_of_cons here) (getLast?_take_of_drop_eq (List.cons_ne_nil c []) here)
        member
  | case4 before offset c rest found ih =>
      exact ih (drop_succ_of_cons here) (getLast?_take_of_drop_eq (List.cons_ne_nil c []) here)
        member
  | case5 before offset follows c rest found apart ih =>
      rcases List.mem_cons.mp member with rfl | later
      · rw [here, last, found]
      · exact ih here last later
  | case6 before offset follows c rest d word found ih =>
      rcases List.mem_cons.mp member with rfl | later
      · rw [here, last, found]
      · obtain ⟨spelling, -, -, front⟩ := exists_stands_of_wholeWord? found
        obtain ⟨behind, split⟩ : d :: word <+: c :: rest := front ▸ List.take_prefix _ _
        have passed := getLast?_take_of_drop_eq (List.cons_ne_nil d word) (here.trans split.symm)
        refine ih ?_ passed later
        rw [← List.drop_drop, here, List.length_cons, List.drop_succ_cons]

end

/-- The keywords of a text are spread over it in order, none overlapping another. -/
theorem spread_wholeWords (keywords : Keywords) (text : List Char) :
    Spread keywords.spellings text 0 (wholeWords keywords text) :=
  spread_wholeWordsFrom none 0 false text rfl

end MarkerReport.Occurrence
