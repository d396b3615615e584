import MarkerReport.Proofs.Marker.Returns

/-! # Findings on lines

A line has the same finding with and without a carriage return at its end, because a keyword holds
none and what the keyword says loses the blanks at its end
(`MarkerReport.Finding.onLine?_dropReturn`).
-/

namespace MarkerReport.Finding

open Occurrence

section

variable {spellings : List (List Char)}

/-- The search of a line stays inside the line. -/
theorem stop_le_of_firstFrom? {offset : Nat} {cs : List Char} {hit : Occurrence}
    (found : firstFrom? spellings offset cs = some hit) : hit.stop ≤ offset + cs.length := by
  fun_induction firstFrom? spellings offset cs with
  | case1 cs offset word spelled =>
      obtain rfl := Option.some.inj found
      obtain ⟨spelling, -, -, rfl⟩ := exists_of_spelled? spelled
      simp only [stop, List.length_take]
      omega
  | case2 => simp at found
  | case3 offset c rest missing ih =>
      have later := ih found
      rw [List.length_cons]
      omega

variable (unbroken : Unbroken spellings)

include unbroken

theorem spelled?_nil : spelled? spellings [] = none := by
  cases found : spelled? spellings [] with
  | none => rfl
  | some word =>
      obtain ⟨spelling, member, same, front⟩ := exists_of_spelled? found
      exact ((unbroken_of_sameFolded unbroken member same).1 (front ▸ List.take_nil)).elim

theorem firstFrom?_nil (offset : Nat) : firstFrom? spellings offset [] = none := by
  rw [firstFrom?, spelled?_nil unbroken]

/-- A return at the end of a line is neither found nor hides anything that is. -/
theorem firstFrom?_append_return (offset : Nat) (cs : List Char) :
    firstFrom? spellings offset (cs ++ ['\r']) = firstFrom? spellings offset cs := by
  have front (cs : List Char) :
      spelled? spellings (cs ++ ['\r']) = spelled? spellings cs :=
    (spelled?_of_returned unbroken (.append_return cs)).symm
  induction cs generalizing offset with
  | nil =>
      have missing := front []
      rw [spelled?_nil unbroken] at missing
      rw [firstFrom?_nil unbroken, List.nil_append, firstFrom?, ← List.nil_append ['\r'], missing]
      exact firstFrom?_nil unbroken _
  | cons c cs ih =>
      have here := front (c :: cs)
      rw [List.cons_append] at here ⊢
      rw [firstFrom?, firstFrom?, here]
      cases spelled? spellings (c :: cs) with
      | none => exact ih (offset + 1)
      | some word => rfl

end

section

variable {keywords : Keywords} (unbroken : Unbroken keywords.spellings)

include unbroken

theorem onLine?_nil (number : Nat) : onLine? keywords number [] = none := by
  rw [onLine?, first?, firstFrom?_nil unbroken]

/-- A carriage return at the end of a line is no part of what the keyword on it says. -/
theorem onLine?_append_return (number : Nat) (line : List Char) :
    onLine? keywords number (line ++ ['\r']) = onLine? keywords number line := by
  rw [onLine?, onLine?, first?, first?, firstFrom?_append_return unbroken]
  cases found : firstFrom? keywords.spellings 0 line with
  | none => rfl
  | some hit =>
      have within : hit.stop ≤ line.length := by simpa using stop_le_of_firstFrom? found
      have text : Text.trimBlanks (((line ++ ['\r']).drop hit.stop).dropWhile isLineSeparator) =
          Text.trimBlanks ((line.drop hit.stop).dropWhile isLineSeparator) := by
        have separates : isLineSeparator '\r' := by decide
        rw [List.drop_append_of_le_length within]
        rcases dropWhile_append_return separates (line.drop hit.stop) with same | longer
        · rw [same]
        · rw [longer]
          exact dropBlanksEnd_dropWhile_append_return isBlank_return _
      simp only [text]

/-- A line has the same finding with and without the return at its end. -/
theorem onLine?_dropReturn (number : Nat) (line : List Char) :
    onLine? keywords number (Text.dropReturn line) = onLine? keywords number line := by
  rcases Text.eq_dropReturn_or line with same | longer
  · rw [← same]
  · rw [longer, onLine?_append_return unbroken, Text.dropReturn_append_return]

end

end MarkerReport.Finding
