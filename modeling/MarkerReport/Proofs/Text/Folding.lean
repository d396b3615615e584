import Mathlib.Data.List.Forall2
import Mathlib.Data.List.Sort
import Mathlib.Data.List.TakeWhile
import MarkerReport.Text.Case
import MarkerReport.Text.Character

/-! # Case folding and classes of characters

Only letters fold to another character, and they fold to letters
(`MarkerReport.Text.isAlphabetic_of_fold_ne`). So folding keeps word characters apart from all
others (`MarkerReport.Text.isWord_fold`), and a character that is no letter agrees, up to case, with
itself alone (`MarkerReport.Text.eq_of_fold_eq`).

Both rest on the tables. A table of stretches is compared with another one in a single pass through
the two of them.
-/

namespace MarkerReport.Text

/-- The order in which a pass meets two stretches. -/
def StartsBefore (first second : Nat × Nat) : Prop := first.1 ≤ second.1

instance : DecidableRel StartsBefore :=
  fun first second => inferInstanceAs (Decidable (first.1 ≤ second.1))

instance : IsTrans (Nat × Nat) StartsBefore := ⟨fun _ _ _ => Nat.le_trans⟩

instance : Std.Total StartsBefore := ⟨fun first second => Nat.le_total first.1 second.1⟩

/-- Whether a stretch lies within a range. -/
def Ranges.within (range stretch : Nat × Nat) : Bool :=
  decide (range.1 ≤ stretch.1) && decide (stretch.2 ≤ range.2)

/-- Whether each of the stretches, which are in order, lies within one of the ranges. -/
def Ranges.cover : Ranges → Ranges → Bool
  | _, [] => true
  | [], _ :: _ => false
  | range :: rest, stretch :: later =>
      decide (range.1 ≤ stretch.1) &&
        Ranges.cover rest ((stretch :: later).dropWhile (Ranges.within range))

/-- A code point in a stretch that the ranges cover lies in a range. -/
theorem Ranges.contains_of_cover {ranges stretches : Ranges} {stretch : Nat × Nat} {code : Nat}
    (ordered : stretches.Pairwise StartsBefore) (covered : ranges.cover stretches)
    (member : stretch ∈ stretches) (above : stretch.1 ≤ code) (below : code ≤ stretch.2) :
    ranges.contains code := by
  induction ranges generalizing stretches with
  | nil =>
      cases stretches with
      | nil => simp at member
      | cons head later => simp [Ranges.cover] at covered
  | cons range rest ih =>
      obtain ⟨low, high⟩ := range
      cases stretches with
      | nil => simp at member
      | cons head later =>
          rw [Ranges.cover, Bool.and_eq_true, decide_eq_true_eq] at covered
          obtain ⟨start, covered⟩ := covered
          have reached : low ≤ code := by
            have first : head.1 ≤ stretch.1 := by
              rcases List.mem_cons.mp member with rfl | behind
              · exact Nat.le_refl _
              · exact (List.pairwise_cons.mp ordered).1 stretch behind
            omega
          rw [Ranges.contains, if_neg (by omega)]
          split
          · rfl
          · rename_i beyond
            refine ih (ordered.sublist (List.dropWhile_sublist _)) covered ?_
            -- A stretch that reaches beyond the range is not among those passed with it.
            have split : (head :: later).takeWhile (Ranges.within (low, high)) ++
                (head :: later).dropWhile (Ranges.within (low, high)) = head :: later :=
              List.takeWhile_append_dropWhile
            rw [← split, List.mem_append] at member
            rcases member with passed | kept
            · have inside := List.mem_takeWhile_imp passed
              simp only [Ranges.within, Bool.and_eq_true, decide_eq_true_eq] at inside
              omega
            · exact kept

/-- The order of the stretches does not matter when they are sorted for the pass. -/
theorem Ranges.contains_of_cover_sorted {ranges stretches : Ranges} {stretch : Nat × Nat}
    {code : Nat} (covered : ranges.cover (stretches.insertionSort StartsBefore))
    (member : stretch ∈ stretches) (above : stretch.1 ≤ code) (below : code ≤ stretch.2) :
    ranges.contains code :=
  contains_of_cover (List.pairwise_insertionSort StartsBefore stretches) covered
    ((List.mem_insertionSort StartsBefore).mpr member) above below

/-- The stretches of code points that a shift takes. -/
def Shift.sources (shift : Shift) : Ranges :=
  if shift.step = 1 then [(shift.first, shift.last)]
  else
    (List.range ((shift.last - shift.first) / shift.step + 1)).map fun index =>
      (shift.first + index * shift.step, shift.first + index * shift.step)

/-- A stretch that holds all code points that a shift carries something to. -/
def Shift.targets (shift : Shift) : Nat × Nat :=
  (shift.target, shift.target + (shift.last - shift.first))

/-- A code point that is carried anywhere is carried by a shift of the table, on one of its steps.
-/
theorem Shift.exists_of_find? {shifts : List Shift} {code image : Nat}
    (found : Shift.find? shifts code = some image) :
    ∃ shift ∈ shifts, shift.first ≤ code ∧ code ≤ shift.last ∧
      (code - shift.first) % shift.step = 0 ∧ image = shift.target + (code - shift.first) := by
  induction shifts with
  | nil => simp [Shift.find?] at found
  | cons shift rest ih =>
      unfold Shift.find? at found
      split at found
      · simp at found
      · split at found
        · split at found
          · refine ⟨shift, List.mem_cons_self, by omega, by assumption, by assumption, ?_⟩
            exact (Option.some.inj found).symm
          · simp at found
        · obtain ⟨taken, member, facts⟩ := ih found
          exact ⟨taken, List.mem_cons_of_mem shift member, facts⟩

/-- A code point on a step of a shift lies in one of the stretches that the shift takes. -/
theorem Shift.exists_source {shift : Shift} {code : Nat} (above : shift.first ≤ code)
    (below : code ≤ shift.last) (onStep : (code - shift.first) % shift.step = 0) :
    ∃ stretch ∈ shift.sources, stretch.1 ≤ code ∧ code ≤ stretch.2 := by
  unfold Shift.sources
  split
  · exact ⟨_, List.mem_singleton.mpr rfl, above, below⟩
  · have whole : shift.first + (code - shift.first) / shift.step * shift.step = code := by
      have parts := Nat.div_add_mod (code - shift.first) shift.step
      rw [onStep, Nat.mul_comm] at parts
      omega
    have index : (code - shift.first) / shift.step <
        (shift.last - shift.first) / shift.step + 1 := by
      have bound : code - shift.first ≤ shift.last - shift.first := by omega
      exact Nat.lt_succ_of_le (Nat.div_le_div_right bound)
    refine ⟨_, List.mem_map.mpr ⟨_, List.mem_range.mpr index, rfl⟩, ?_⟩
    exact ⟨Nat.le_of_eq whole, Nat.le_of_eq whole.symm⟩

/-- Folding takes alphabetic characters only. -/
theorem cover_sources :
    alphabeticRanges.cover ((foldingShifts.flatMap Shift.sources).insertionSort StartsBefore) := by
  decide +kernel

/-- Folding leads to alphabetic characters only. -/
theorem cover_targets :
    alphabeticRanges.cover ((foldingShifts.map Shift.targets).insertionSort StartsBefore) := by
  decide +kernel

/-- No stretch that folding leads to runs into the surrogates or beyond the last character. -/
theorem targets_valid : ∀ shift ∈ foldingShifts, shift.targets.2 < 0xd800 ∨
    0xdfff < shift.targets.1 ∧ shift.targets.2 < 0x110000 := by
  decide +kernel

/-- A code point that is no surrogate is that of a character. -/
theorem toNat_ofNat {code : Nat} (valid : code < 0xd800 ∨ 0xdfff < code ∧ code < 0x110000) :
    (Char.ofNat code).toNat = code := by
  rw [Char.ofNat, dif_pos valid]
  rfl

/-- A character that folds to another one is a letter, and so is what it folds to. -/
theorem isAlphabetic_of_fold_ne {c : Char} (moved : fold c ≠ c) :
    isAlphabetic c ∧ isAlphabetic (fold c) := by
  cases found : Shift.find? foldingShifts c.toNat with
  | none => exact (moved (by rw [fold, found])).elim
  | some image =>
      obtain ⟨shift, member, above, below, onStep, carried⟩ := Shift.exists_of_find? found
      have target : shift.targets.1 ≤ image ∧ image ≤ shift.targets.2 := by
        simp only [Shift.targets]
        omega
      constructor
      · obtain ⟨stretch, source, low, high⟩ := Shift.exists_source above below onStep
        have listed := List.mem_flatMap.mpr ⟨shift, member, source⟩
        exact Ranges.contains_of_cover_sorted cover_sources listed low high
      · have valid : (Char.ofNat image).toNat = image := by
          apply toNat_ofNat
          have bounds := targets_valid shift member
          omega
        have listed : shift.targets ∈ foldingShifts.map Shift.targets := List.mem_map_of_mem member
        rw [fold, found, isAlphabetic, valid]
        exact Ranges.contains_of_cover_sorted cover_targets listed target.1 target.2

/-- Folding never relates a word character to a character that is none. -/
theorem isWord_fold (c : Char) : isWord (fold c) = isWord c := by
  by_cases moved : fold c = c
  · rw [moved]
  · obtain ⟨source, target⟩ := isAlphabetic_of_fold_ne moved
    simp only [isWord, source, target, Bool.true_or]

/-- A character that is no letter agrees with itself alone. -/
theorem eq_of_fold_eq {c d : Char} (plain : isAlphabetic c = false) (same : fold d = fold c) :
    d = c := by
  have fixed : fold c = c := by
    by_contra moved
    rw [(isAlphabetic_of_fold_ne moved).1] at plain
    exact Bool.noConfusion plain
  rw [fixed] at same
  by_contra different
  have moved : fold d ≠ d := fun stays => different (stays.symm.trans same)
  rw [← same, (isAlphabetic_of_fold_ne moved).2] at plain
  exact Bool.noConfusion plain

/-- Two texts agree up to case if they fold to the same text. -/
theorem sameFolded_iff (left right : List Char) :
    sameFolded left right ↔ left.map fold = right.map fold :=
  beq_iff_eq

/-- Two texts agree up to case if they do so character by character. -/
theorem sameFolded_iff_forall₂ (left right : List Char) :
    sameFolded left right ↔ List.Forall₂ (fun c d => fold c = fold d) left right := by
  rw [sameFolded_iff, ← List.forall₂_eq_eq_eq, List.forall₂_map_left_iff,
    List.forall₂_map_right_iff]

theorem sameFolded_refl (text : List Char) : sameFolded text text :=
  (sameFolded_iff text text).mpr rfl

theorem sameFolded_symm {left right : List Char} (same : sameFolded left right) :
    sameFolded right left :=
  (sameFolded_iff right left).mpr ((sameFolded_iff left right).mp same).symm

theorem sameFolded_trans {left middle right : List Char} (first : sameFolded left middle)
    (second : sameFolded middle right) : sameFolded left right :=
  (sameFolded_iff left right).mpr
    (((sameFolded_iff left middle).mp first).trans ((sameFolded_iff middle right).mp second))

/-- Texts that agree up to case are equally long. -/
theorem length_eq_of_sameFolded {left right : List Char} (same : sameFolded left right) :
    left.length = right.length := by
  have lengths := congrArg List.length ((sameFolded_iff left right).mp same)
  rwa [List.length_map, List.length_map] at lengths

theorem ne_nil_of_sameFolded {left right : List Char} (same : sameFolded left right)
    (nonempty : right ≠ []) : left ≠ [] := by
  intro empty
  have length := length_eq_of_sameFolded same
  rw [empty, List.length_nil] at length
  exact nonempty (List.length_eq_zero_iff.mp length.symm)

/-- Texts that agree up to case have word characters at the same places. -/
theorem all_isWord_eq_of_sameFolded {left right : List Char} (same : sameFolded left right) :
    left.all isWord = right.all isWord := by
  have folded (cs : List Char) : (cs.map fold).all isWord = cs.all isWord := by
    rw [List.all_map]
    exact congrArg cs.all (funext isWord_fold)
  rw [← folded left, (sameFolded_iff left right).mp same, folded]

/-- Agreement up to case brings in no character that is no letter. -/
theorem not_mem_of_sameFolded {c : Char} {left right : List Char} (plain : isAlphabetic c = false)
    (same : sameFolded left right) (absent : c ∉ right) : c ∉ left := by
  intro member
  have folded : fold c ∈ right.map fold :=
    (sameFolded_iff left right).mp same ▸ List.mem_map_of_mem member
  obtain ⟨d, listed, agrees⟩ := List.mem_map.mp folded
  exact absent (eq_of_fold_eq plain agrees ▸ listed)

end MarkerReport.Text
