import MarkerReport.Marker.Occurrence
import MarkerReport.Proofs.Text.Folding
import MarkerReport.Text.Lines

/-! # Carriage returns at the ends of lines

Two texts are compared that differ only in carriage returns at the ends of lines. One of them has a
carriage return where the other has none: before a line feed, or at the very end. A word without a
line break leads one text exactly if it leads the other, and what follows it differs only in
carriage returns again. So does a text that agrees with such a word up to case
(`MarkerReport.Text.Returned.sameFolded_take`).
-/

namespace MarkerReport.Text

/-- The text with a carriage return before every line feed. -/
def withReturns (cs : List Char) : List Char :=
  cs.flatMap fun c => if c = '\n' then ['\r', '\n'] else [c]

/-- The right text is the left one with carriage returns put in, before some of its line feeds and
perhaps at its end. -/
inductive Returned : List Char → List Char → Prop
  | nil : Returned [] []
  | ending : Returned [] ['\r']
  | cons (c : Char) {left right : List Char} (rest : Returned left right) :
      Returned (c :: left) (c :: right)
  | feed {left right : List Char} (rest : Returned left right) :
      Returned ('\n' :: left) ('\r' :: '\n' :: right)

namespace Returned

/-- No returns need be put in. -/
theorem refl (cs : List Char) : Returned cs cs := by
  induction cs with
  | nil => exact .nil
  | cons c cs ih => exact .cons c ih

/-- A single return may be put in at the end. -/
theorem append_return (cs : List Char) : Returned cs (cs ++ ['\r']) := by
  induction cs with
  | nil => exact .ending
  | cons c cs ih => exact .cons c ih

/-- A return may be put in before every feed. -/
theorem withReturns (cs : List Char) : Returned cs (withReturns cs) := by
  induction cs with
  | nil => exact .nil
  | cons c cs ih =>
      rw [Text.withReturns, List.flatMap_cons, ← Text.withReturns]
      split
      · rename_i feed
        subst feed
        exact .feed ih
      · exact .cons c ih

/-- A common front does not matter. -/
theorem append_left (word : List Char) {left right : List Char} (returned : Returned left right) :
    Returned (word ++ left) (word ++ right) := by
  induction word with
  | nil => exact returned
  | cons c word ih => exact .cons c ih

/-- A front without feeds gets no returns, so it leads the other text as well. -/
theorem of_append_left {word left right : List Char} (feedless : '\n' ∉ word)
    (returned : Returned (word ++ left) right) :
    ∃ behind, right = word ++ behind ∧ Returned left behind := by
  induction word generalizing right with
  | nil => exact ⟨right, rfl, returned⟩
  | cons c word ih =>
      rw [List.mem_cons, not_or] at feedless
      rw [List.cons_append] at returned
      cases returned with
      | cons _ rest =>
          obtain ⟨behind, rfl, later⟩ := ih feedless.2 rest
          exact ⟨behind, rfl, later⟩
      | feed rest => exact (feedless.1 rfl).elim

/-- A front without returns had none put in, so it leads the first text as well. -/
theorem of_append_right {word left right : List Char} (unreturned : '\r' ∉ word)
    (returned : Returned left (word ++ right)) :
    ∃ behind, left = word ++ behind ∧ Returned behind right := by
  induction word generalizing left with
  | nil => exact ⟨left, rfl, returned⟩
  | cons c word ih =>
      rw [List.mem_cons, not_or] at unreturned
      rw [List.cons_append] at returned
      generalize whole : word ++ right = tail at returned
      cases returned with
      | ending => exact (unreturned.1 rfl).elim
      | cons _ rest =>
          subst whole
          obtain ⟨behind, rfl, later⟩ := ih unreturned.2 rest
          exact ⟨behind, rfl, later⟩
      | feed rest => exact (unreturned.1 rfl).elim

/-- A spelling without line breaks leads both texts, with the same characters, or none of them. -/
theorem sameFolded_take {left right spelling : List Char} (returned : Returned left right)
    (unreturned : '\r' ∉ spelling) (feedless : '\n' ∉ spelling) :
    (∃ word leftRest rightRest, left = word ++ leftRest ∧ right = word ++ rightRest ∧
      word.length = spelling.length ∧ sameFolded word spelling ∧ Returned leftRest rightRest) ∨
    (sameFolded (left.take spelling.length) spelling = false ∧
      sameFolded (right.take spelling.length) spelling = false) := by
  by_cases leads : sameFolded (left.take spelling.length) spelling
  · have free : '\n' ∉ left.take spelling.length :=
      not_mem_of_sameFolded (by decide) leads feedless
    have split := List.take_append_drop spelling.length left
    rw [← split] at returned
    obtain ⟨behind, same, rest⟩ := of_append_left free returned
    exact .inl ⟨_, _, behind, split.symm, same, length_eq_of_sameFolded leads, leads, rest⟩
  · by_cases follows : sameFolded (right.take spelling.length) spelling
    · have free : '\r' ∉ right.take spelling.length :=
        not_mem_of_sameFolded (by decide) follows unreturned
      have split := List.take_append_drop spelling.length right
      rw [← split] at returned
      obtain ⟨behind, same, rest⟩ := of_append_right free returned
      exact .inl ⟨_, behind, _, same, split.symm, length_eq_of_sameFolded follows, follows, rest⟩
    · exact .inr ⟨Bool.eq_false_iff.mpr leads, Bool.eq_false_iff.mpr follows⟩

end Returned

end MarkerReport.Text
