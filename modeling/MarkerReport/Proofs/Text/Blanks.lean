import Mathlib.Data.List.DropRight
import MarkerReport.Text.Character

/-! # Blanks in a text

No blank is a word character. A text loses just the blanks at its end when these are dropped, and
what is left does not end in one.
-/

namespace MarkerReport.Text

/-- A code point in a table lies in one of its ranges. -/
theorem Ranges.exists_of_contains {ranges : Ranges} {code : Nat} (inside : ranges.contains code) :
    ∃ range ∈ ranges, range.1 ≤ code ∧ code ≤ range.2 := by
  induction ranges with
  | nil => simp [Ranges.contains] at inside
  | cons range rest ih =>
      rw [Ranges.contains] at inside
      split at inside
      · simp at inside
      · split at inside
        · exact ⟨range, List.mem_cons_self, by omega, by assumption⟩
        · obtain ⟨other, member, bounds⟩ := ih inside
          exact ⟨other, List.mem_cons_of_mem range member, bounds⟩

/-- No blank of the table is a word character, checked range by range. -/
theorem blankRanges_apart : ∀ range ∈ blankRanges,
    ∀ code ∈ List.range' range.1 (range.2 + 1 - range.1), isWord (Char.ofNat code) = false := by
  decide +kernel

/-- No blank is a word character. -/
theorem isWord_of_isBlank {c : Char} (blank : isBlank c) : isWord c = false := by
  obtain ⟨range, member, above, below⟩ := Ranges.exists_of_contains blank
  have code : c.toNat ∈ List.range' range.1 (range.2 + 1 - range.1) := by
    rw [List.mem_range'_1]
    omega
  rw [← Char.ofNat_toNat c]
  exact blankRanges_apart range member c.toNat code

/-- What trimming takes off the end of a text are blanks. -/
theorem exists_blanks_dropBlanksEnd (cs : List Char) :
    ∃ blanks, cs = dropBlanksEnd cs ++ blanks ∧ ∀ c ∈ blanks, isBlank c :=
  ⟨cs.rtakeWhile isBlank, List.rdropWhile_append_rtakeWhile.symm,
    fun _ member => List.mem_rtakeWhile_imp member⟩

/-- What is left after dropping starts with nothing that would be dropped. -/
theorem stops_of_head?_dropWhile {p : Char → Bool} {cs : List Char} {c : Char}
    (first : (cs.dropWhile p).head? = some c) : p c = false := by
  simpa [first] using List.head?_dropWhile_not p cs

/-- A trimmed text does not end with a blank. -/
theorem isBlank_getLast?_dropBlanksEnd {cs : List Char} {c : Char}
    (last : (dropBlanksEnd cs).getLast? = some c) : isBlank c = false := by
  rw [dropBlanksEnd, dropWhileEnd, List.getLast?_reverse] at last
  exact stops_of_head?_dropWhile last

/-- Dropping takes the front whose characters all go and stops where one does not. -/
theorem dropWhile_append_of_stops {p : Char → Bool} {front cs : List Char}
    (all : ∀ c ∈ front, p c) (stops : ∀ c, cs.head? = some c → p c = false) :
    (front ++ cs).dropWhile p = cs := by
  rw [List.dropWhile_append_of_pos all]
  cases cs with
  | nil => rfl
  | cons c cs => rw [List.dropWhile_cons_of_neg (by simp [stops c rfl])]

/-- Taking gives the front whose characters all go and stops where one does not. -/
theorem takeWhile_append_of_stops {p : Char → Bool} {front cs : List Char}
    (all : ∀ c ∈ front, p c) (stops : ∀ c, cs.head? = some c → p c = false) :
    (front ++ cs).takeWhile p = front := by
  rw [List.takeWhile_append_of_pos all]
  cases cs with
  | nil => exact List.append_nil front
  | cons c cs => rw [List.takeWhile_cons_of_neg (by simp [stops c rfl]), List.append_nil]

/-- Trimming takes a trail of blanks off a text that ends with none. -/
theorem dropBlanksEnd_append_of_stops {cs trail : List Char} (blank : ∀ c ∈ trail, isBlank c)
    (stops : ∀ c, cs.getLast? = some c → isBlank c = false) :
    dropBlanksEnd (cs ++ trail) = cs := by
  rw [dropBlanksEnd, dropWhileEnd, List.reverse_append, dropWhile_append_of_stops,
    List.reverse_reverse]
  · intro c member
    exact blank c (List.mem_reverse.mp member)
  · intro c first
    exact stops c (by rwa [List.head?_reverse] at first)

end MarkerReport.Text
