import Mathlib.Data.List.Forall2
import MarkerReport.Marker.Finding
import MarkerReport.Proofs.Marker.Occurrences

/-! # Occurrences that keep apart

Keywords may be empty, and then match at every word boundary. The occurrences are still those of a
pass that looks for the leftmost match again and again, each time from where the last one has ended,
and passes over an empty match right there. So the pass comes to an end, each occurrence starts
behind the start of the one before it and not before its end, and the text splits into what leads
the first occurrence and, for each of them, the occurrence itself and what follows it
(`MarkerReport.Finding.inComment_splits_text`).
-/

namespace MarkerReport.Occurrence

/-- The occurrence that starts at a place of the text, if one does. -/
def standingAt? (spellings : List (List Char)) (text : List Char) (place : Nat) :
    Option Occurrence :=
  (wholeWord? spellings (text.take place).getLast? (text.drop place)).map (⟨place, ·⟩)

/-- The leftmost occurrence that starts at the offset or behind it. -/
def leftmost? (spellings : List (List Char)) (text : List Char) (offset : Nat) :
    Option Occurrence :=
  (List.range' offset (text.length + 1 - offset)).findSome? (standingAt? spellings text)

/-- A pass through a text: where the search goes on, and where the last occurrence has ended. -/
structure Pass where
  offset : Nat
  last : Option Nat

namespace Pass

/-- The pass before anything is found. -/
def start : Pass := ⟨0, none⟩

/-- The pass once an occurrence is found. -/
def behind (hit : Occurrence) : Pass := ⟨hit.stop, some hit.stop⟩

/-- The occurrence that the pass finds next. An empty one where the last one has ended does not
count, and the search starts again one place further. -/
def next? (spellings : List (List Char)) (text : List Char) (pass : Pass) : Option Occurrence :=
  match leftmost? spellings text pass.offset with
  | none => none
  | some hit =>
      if hit.word = [] ∧ pass.last = some hit.stop then
        leftmost? spellings text (pass.offset + 1)
      else some hit

/-- The pass finds these occurrences, one after the other, and comes to an end. -/
inductive Finds (spellings : List (List Char)) (text : List Char) : Pass → List Occurrence → Prop
  | ended {pass : Pass} (nothing : pass.next? spellings text = none) : Finds spellings text pass []
  | found {pass : Pass} {hit : Occurrence} {later : List Occurrence}
      (here : pass.next? spellings text = some hit)
      (rest : Finds spellings text (behind hit) later) : Finds spellings text pass (hit :: later)

end Pass

section

variable {spellings : List (List Char)} {text : List Char}

/-- A keyword stands at a place exactly when the search finds it there with its neighbours. -/
theorem standingAt?_eq_some_iff {place : Nat} {hit : Occurrence} :
    standingAt? spellings text place = some hit ↔
      hit.start = place ∧
        wholeWord? spellings (text.take place).getLast? (text.drop place) = some hit.word := by
  obtain ⟨start, word⟩ := hit
  rw [standingAt?, Option.map_eq_some_iff]
  constructor
  · intro stands
    obtain ⟨found, stands, same⟩ := stands
    obtain ⟨rfl, rfl⟩ := Occurrence.mk.inj same
    exact ⟨rfl, stands⟩
  · intro stands
    obtain ⟨rfl, stands⟩ := stands
    exact ⟨word, stands, rfl⟩

variable (spellings) in
/-- The keyword at an offset, read off the character before it and the text behind it. -/
theorem standingAt?_eq {before : Option Char} {offset : Nat} {cs : List Char}
    (here : text.drop offset = cs) (last : (text.take offset).getLast? = before) :
    standingAt? spellings text offset = (wholeWord? spellings before cs).map (⟨offset, ·⟩) := by
  rw [standingAt?, here, last]

theorem lt_length_of_drop_eq_cons {offset : Nat} {c : Char} {rest : List Char}
    (here : text.drop offset = c :: rest) : offset < text.length := by
  apply Nat.lt_of_not_le
  intro beyond
  rw [List.drop_of_length_le beyond] at here
  exact List.cons_ne_nil c rest here.symm

/-- Beyond the text there is nothing to find. -/
theorem leftmost?_of_length_lt {offset : Nat} (beyond : text.length < offset) :
    leftmost? spellings text offset = none := by
  rw [leftmost?, Nat.sub_eq_zero_of_le beyond]
  rfl

/-- The leftmost keyword stands at the offset itself or is the leftmost of the next one. -/
theorem leftmost?_of_le_length {offset : Nat} (within : offset ≤ text.length) :
    leftmost? spellings text offset =
      (standingAt? spellings text offset).or (leftmost? spellings text (offset + 1)) := by
  have places : text.length + 1 - offset = text.length + 1 - (offset + 1) + 1 := by omega
  rw [leftmost?, places, List.range'_succ, List.findSome?_cons]
  cases standingAt? spellings text offset <;> rfl

/-- The leftmost keyword from an offset starts there or later, inside the text, and stands where it
starts. -/
theorem bounds_of_leftmost? {offset : Nat} {hit : Occurrence}
    (found : leftmost? spellings text offset = some hit) :
    offset ≤ hit.start ∧ hit.start ≤ text.length ∧
      standingAt? spellings text hit.start = some hit := by
  obtain ⟨place, member, stands⟩ := List.exists_of_findSome?_eq_some found
  obtain ⟨rfl, -⟩ := standingAt?_eq_some_iff.mp stands
  rw [List.mem_range'_1] at member
  exact ⟨member.1, by omega, stands⟩

namespace Pass

/-- The next occurrence is what stands at the place where it starts. It does not start before the
offset, and it does not come directly behind the last one if it is empty. -/
theorem next?_cases {pass : Pass} {hit : Occurrence}
    (found : pass.next? spellings text = some hit) :
    pass.offset ≤ hit.start ∧ hit.start ≤ text.length ∧
      standingAt? spellings text hit.start = some hit ∧
      (pass.last = some pass.offset → hit.word = [] → pass.offset < hit.start) := by
  unfold next? at found
  split at found
  · exact (Option.some_ne_none _ found.symm).elim
  · rename_i first leftmost
    split at found
    · obtain ⟨reached, inside, stands⟩ := bounds_of_leftmost? found
      refine ⟨(Nat.le_succ _).trans reached, inside, stands, ?_⟩
      intro last empty
      exact reached
    · rename_i counts
      obtain rfl := Option.some.inj found
      obtain ⟨reached, inside, stands⟩ := bounds_of_leftmost? leftmost
      refine ⟨reached, inside, stands, ?_⟩
      intro last empty
      apply lt_of_le_of_ne reached
      intro same
      apply counts
      refine ⟨empty, ?_⟩
      rw [last, same, stop, empty]
      rfl

/-- Behind an occurrence the next one starts later, also if the first one is empty. -/
theorem start_lt_of_next?_behind {hit next : Occurrence}
    (stands : standingAt? spellings text hit.start = some hit)
    (found : (behind hit).next? spellings text = some next) : hit.start < next.start := by
  obtain ⟨reached, -, also, apart⟩ := next?_cases found
  have length : hit.stop = hit.start + hit.word.length := rfl
  change hit.stop ≤ next.start at reached
  by_contra early
  -- Both would start at one place, where only one word can be found, and it would be empty.
  have place : next.start = hit.start := by omega
  rw [place, stands] at also
  obtain rfl := Option.some.inj also
  have empty : hit.word = [] := List.length_eq_zero_iff.mp (by omega)
  have further : hit.stop < hit.start := apart rfl empty
  omega

/-- A pass finds nothing before the place it has come to. -/
theorem Finds.offset_le {pass : Pass} {hits : List Occurrence}
    (finds : Finds spellings text pass hits) {hit : Occurrence} (member : hit ∈ hits) :
    pass.offset ≤ hit.start := by
  induction finds with
  | ended nothing => exact (List.not_mem_nil member).elim
  | @found pass first later here rest ih =>
      have reached := (next?_cases here).1
      rcases List.mem_cons.mp member with rfl | beyond
      · exact reached
      · have order : first.stop ≤ hit.start := ih beyond
        exact reached.trans ((Nat.le_add_right _ _).trans order)

/-- Everything a pass finds stands where it starts, inside the text. -/
theorem Finds.stands {pass : Pass} {hits : List Occurrence}
    (finds : Finds spellings text pass hits) {hit : Occurrence} (member : hit ∈ hits) :
    hit.start ≤ text.length ∧ standingAt? spellings text hit.start = some hit := by
  induction finds with
  | ended nothing => exact (List.not_mem_nil member).elim
  | found here rest ih =>
      rcases List.mem_cons.mp member with rfl | beyond
      · obtain ⟨-, inside, stands, -⟩ := next?_cases here
        exact ⟨inside, stands⟩
      · exact ih beyond

/-- The occurrences of a pass keep apart. -/
theorem Finds.pairwise {pass : Pass} {hits : List Occurrence}
    (finds : Finds spellings text pass hits) :
    hits.Pairwise fun first second => first.start < second.start ∧ first.stop ≤ second.start := by
  induction finds with
  | ended nothing => exact .nil
  | @found pass hit later here rest ih =>
      refine .cons ?_ ih
      intro other member
      refine ⟨?_, rest.offset_le member⟩
      cases rest with
      | ended nothing => exact (List.not_mem_nil member).elim
      | @found _ next more there beyond =>
          have first := start_lt_of_next?_behind (next?_cases here).2.2.1 there
          rcases List.mem_cons.mp member with rfl | further
          · exact first
          · exact first.trans ((List.pairwise_cons.mp ih).1 other further).1

/-- The rules leave a pass no choice: what it finds is determined. -/
theorem Finds.unique {pass : Pass} {hits others : List Occurrence}
    (finds : Finds spellings text pass hits) (also : Finds spellings text pass others) :
    hits = others := by
  induction finds generalizing others with
  | ended nothing =>
      cases also with
      | ended => rfl
      | found here rest => exact (Option.some_ne_none _ (here.symm.trans nothing)).elim
  | found here rest ih =>
      cases also with
      | ended nothing => exact (Option.some_ne_none _ (here.symm.trans nothing)).elim
      | found there beyond =>
          obtain rfl := Option.some.inj (here.symm.trans there)
          rw [ih beyond]

/-- Two passes with the same next hit find the same. -/
theorem Finds.of_next?_eq {pass other : Pass} {hits : List Occurrence}
    (finds : Finds spellings text pass hits)
    (same : other.next? spellings text = pass.next? spellings text) :
    Finds spellings text other hits := by
  cases finds with
  | ended nothing => exact .ended (same.trans nothing)
  | found here rest => exact .found (same.trans here) rest

/-- The pass that goes on at an offset, at which the last occurrence may have ended. -/
def resumed (offset : Nat) (follows : Bool) : Pass :=
  ⟨offset, if follows then some offset else none⟩

/-- Nothing is passed over where the leftmost occurrence does not end with the last one. -/
theorem next?_eq_leftmost? {pass : Pass}
    (apart : ∀ hit, leftmost? spellings text pass.offset = some hit → pass.last ≠ some hit.stop) :
    pass.next? spellings text = leftmost? spellings text pass.offset := by
  unfold next?
  split
  · rename_i missing
    exact missing.symm
  · rename_i hit found
    rw [if_neg fun touches => apart hit found touches.2, found]

/-- A pass that has not just found something takes the leftmost keyword, empty or not. -/
theorem next?_resumed_false (offset : Nat) :
    (resumed offset false).next? spellings text = leftmost? spellings text offset := by
  apply next?_eq_leftmost?
  intro hit found
  exact (Option.some_ne_none hit.stop).symm

/-- A keyword that stands where a pass resumes is its next hit, unless it is empty and right behind
the last one. -/
theorem next?_of_standing {offset : Nat} {follows : Bool} {hit : Occurrence}
    (within : offset ≤ text.length) (stands : standingAt? spellings text offset = some hit)
    (counts : hit.word = [] → follows = false) :
    (resumed offset follows).next? spellings text = some hit := by
  have leftmost : leftmost? spellings text (resumed offset follows).offset = some hit := by
    rw [resumed, leftmost?_of_le_length within, stands, Option.some_or]
  unfold next?
  rw [leftmost]
  apply if_neg
  intro touches
  simp [resumed, counts touches.1] at touches

/-- The pass goes on one place further where no occurrence stands, or only an empty one right behind
the last one. -/
theorem next?_of_passed {offset : Nat} {follows : Bool} (within : offset ≤ text.length)
    (passed : standingAt? spellings text offset = none ∨
      standingAt? spellings text offset = some ⟨offset, []⟩ ∧ follows) :
    (resumed offset follows).next? spellings text = leftmost? spellings text (offset + 1) := by
  have leftmost : leftmost? spellings text offset =
      (standingAt? spellings text offset).or (leftmost? spellings text (offset + 1)) :=
    leftmost?_of_le_length within
  rcases passed with missing | ⟨empty, ended⟩
  · rw [missing, Option.none_or] at leftmost
    rw [← leftmost]
    apply next?_eq_leftmost?
    intro hit found touches
    have further := (bounds_of_leftmost? (leftmost.symm.trans found)).1
    have order : hit.start ≤ hit.stop := Nat.le_add_right _ _
    obtain ⟨-, same⟩ := Option.ite_none_right_eq_some.mp touches
    obtain rfl := Option.some.inj same
    omega
  · rw [empty, Option.some_or] at leftmost
    unfold next?
    rw [resumed, leftmost]
    apply if_pos
    refine ⟨rfl, ?_⟩
    rw [if_pos ended]
    rfl

/-- At the end of the text a pass finds nothing more once the empty keyword there is passed over. -/
theorem finds_nil_of_passed {offset : Nat} {follows : Bool} (ends : text.drop offset = [])
    (within : offset ≤ text.length)
    (passed : standingAt? spellings text offset = none ∨
      standingAt? spellings text offset = some ⟨offset, []⟩ ∧ follows) :
    Finds spellings text (resumed offset follows) [] := by
  apply Finds.ended
  rw [next?_of_passed within passed]
  apply leftmost?_of_length_lt
  exact Nat.lt_succ_of_le (List.drop_eq_nil_iff.mp ends)

/-- The search place by place finds what the pass finds. -/
theorem finds_wholeWordsFrom {before : Option Char} {offset : Nat} {follows : Bool}
    {cs : List Char} (here : text.drop offset = cs) (last : (text.take offset).getLast? = before)
    (within : offset ≤ text.length) :
    Finds spellings text (resumed offset follows)
      (wholeWordsFrom spellings before offset follows cs) := by
  fun_induction wholeWordsFrom spellings before offset follows cs with
  | case1 before offset follows found =>
      have stands := standingAt?_eq spellings here last
      rw [Bool.and_eq_true, Bool.not_eq_true', Option.isSome_iff_exists] at found
      obtain ⟨apart, word, found⟩ := found
      obtain ⟨spelling, -, -, rfl⟩ := exists_stands_of_wholeWord? found
      rw [found, List.take_nil, Option.map_some] at stands
      refine .found (next?_of_standing within stands fun _ => apart) ?_
      exact finds_nil_of_passed here within (.inr ⟨stands, rfl⟩)
  | case2 before offset follows missing =>
      have stands := standingAt?_eq spellings here last
      apply finds_nil_of_passed here within
      cases found : wholeWord? spellings before [] with
      | none =>
          rw [found] at stands
          exact .inl stands
      | some word =>
          obtain ⟨spelling, -, -, rfl⟩ := exists_stands_of_wholeWord? found
          rw [found, List.take_nil] at stands
          exact .inr ⟨stands, by simpa [found] using missing⟩
  -- A place without an occurrence, or with an empty one that follows another, is left for the next
  -- one, from which the pass finds the same.
  | case3 before offset follows c rest missing ih =>
      have stands := standingAt?_eq spellings here last
      have inside := lt_length_of_drop_eq_cons here
      refine (ih (drop_succ_of_cons here) ?_ inside).of_next?_eq ?_
      · exact getLast?_take_of_drop_eq (List.cons_ne_nil c []) here
      · rw [missing] at stands
        rw [next?_resumed_false]
        exact next?_of_passed within (.inl stands)
  | case4 before offset c rest found ih =>
      have stands := standingAt?_eq spellings here last
      have inside := lt_length_of_drop_eq_cons here
      refine (ih (drop_succ_of_cons here) ?_ inside).of_next?_eq ?_
      · exact getLast?_take_of_drop_eq (List.cons_ne_nil c []) here
      · rw [found] at stands
        rw [next?_resumed_false]
        exact next?_of_passed within (.inr ⟨stands, rfl⟩)
  | case5 before offset follows c rest found apart ih =>
      have stands := standingAt?_eq spellings here last
      rw [found] at stands
      refine .found (next?_of_standing within stands ?_) (ih here last within)
      intro _
      exact Bool.eq_false_iff.mpr apart
  | case6 before offset follows c rest d word found ih =>
      have stands := standingAt?_eq spellings here last
      rw [found] at stands
      obtain ⟨spelling, -, -, front⟩ := exists_stands_of_wholeWord? found
      obtain ⟨behind, split⟩ : d :: word <+: c :: rest := front ▸ List.take_prefix _ _
      have passed := getLast?_take_of_drop_eq (List.cons_ne_nil d word) (here.trans split.symm)
      have occupied (empty : d :: word = []) : follows = false :=
        (List.cons_ne_nil d word empty).elim
      refine .found (next?_of_standing within stands occupied) (ih ?_ passed ?_)
      · rw [← List.drop_drop, here, List.length_cons, List.drop_succ_cons]
      · have fits := congrArg List.length (here.trans split.symm)
        rw [List.length_drop, List.length_append] at fits
        omega

end Pass

end

/-- The passes from the start derive the list of whole words and no other. -/
theorem finds_start_iff (keywords : Keywords) (text : List Char) (hits : List Occurrence) :
    Pass.Finds keywords.spellings text Pass.start hits ↔ hits = wholeWords keywords text := by
  have finds : Pass.Finds keywords.spellings text (Pass.resumed 0 false)
      (wholeWordsFrom keywords.spellings none 0 false text) :=
    Pass.finds_wholeWordsFrom rfl rfl (Nat.zero_le _)
  constructor
  · intro also
    exact also.unique finds
  · intro same
    rw [same]
    exact finds

/-- Where the occurrence with the given number starts, or the end of the text if there are fewer. -/
def startOf (text : List Char) (hits : List Occurrence) (index : Nat) : Nat :=
  (hits[index]?.map (·.start)).getD text.length

/-- What follows the occurrence with the given number, up to the next one or to the end of the
text. -/
def segmentAt (text : List Char) (hits : List Occurrence) (index : Nat) (hit : Occurrence) :
    List Char :=
  text.extract hit.stop (startOf text hits (index + 1))

/-- The occurrences stand in the text one behind the other, and the text consists of what leads the
first one and, for each of them, the occurrence and what follows it. -/
structure Splits (text : List Char) (hits : List Occurrence) : Prop where
  inside : ∀ hit ∈ hits, hit.stop ≤ text.length ∧ text.extract hit.start hit.stop = hit.word
  apart : hits.Pairwise fun first second =>
    first.start < second.start ∧ first.stop ≤ second.start
  ranges : ∀ index hit, hits[index]? = some hit →
    hit.stop ≤ startOf text hits (index + 1) ∧ startOf text hits (index + 1) ≤ text.length
  whole : text = text.take (startOf text hits 0) ++
    (hits.mapIdx fun index hit => hit.word ++ segmentAt text hits index hit).flatten

theorem extract_length (text : List Char) (first : Nat) :
    text.extract first text.length = text.drop first := by
  rw [List.extract_eq_take_drop, ← List.length_drop, List.take_length]

theorem extract_append_drop {text : List Char} {first last : Nat} (order : first ≤ last) :
    text.extract first last ++ text.drop last = text.drop first := by
  have further : text.drop last = (text.drop first).drop (last - first) := by
    rw [List.drop_drop, Nat.add_sub_of_le order]
  rw [further]
  exact List.take_append_drop _ _

/-- From the offset on, the text consists of what leads the first of the occurrences and of the
parts that start with them. -/
theorem Spread.drop_eq {spellings : List (List Char)} {text : List Char} {offset : Nat}
    {hits : List Occurrence} (spread : Spread spellings text offset hits) :
    text.drop offset = text.extract offset (startOf text hits 0) ++
      (hits.mapIdx fun index hit => hit.word ++ segmentAt text hits index hit).flatten := by
  induction spread with
  | nil offset =>
      rw [startOf, List.mapIdx_nil, List.flatten_nil, List.append_nil]
      exact (extract_length text offset).symm
  | @cons offset hit later part rest ih =>
      obtain ⟨behind, split⟩ := part.located
      have follows : text.drop hit.stop = behind := by
        rw [stop, ← List.drop_drop, ← split, List.drop_left]
      rw [List.mapIdx_cons, List.flatten_cons, List.append_assoc]
      have parts : text.drop hit.start = hit.word ++ (segmentAt text (hit :: later) 0 hit ++
          (later.mapIdx fun index other =>
            other.word ++ segmentAt text (hit :: later) (index + 1) other).flatten) := by
        rw [← split, ← follows, ih]
        rfl
      rw [← parts]
      exact (extract_append_drop part.reached).symm

/-- A hit that starts inside the text ends inside it, and the text has its word there. -/
theorem IsPartFrom.inside {spellings : List (List Char)} {text : List Char} {hit : Occurrence}
    (part : IsPartFrom spellings text 0 hit) (within : hit.start ≤ text.length) :
    hit.stop ≤ text.length ∧ text.extract hit.start hit.stop = hit.word := by
  constructor
  · have fits := part.located.length_le
    rw [List.length_drop] at fits
    rw [stop]
    omega
  · rw [stop, List.extract_eq_take_drop, Nat.add_sub_cancel_left]
    exact (List.prefix_iff_eq_take.mp part.located).symm

/-- The occurrences of any keywords split the text. -/
theorem splits_wholeWords (keywords : Keywords) (text : List Char) :
    Splits text (wholeWords keywords text) := by
  have finds := (finds_start_iff keywords text _).mpr rfl
  have spread := spread_wholeWords keywords text
  have inside (hit : Occurrence) (member : hit ∈ wholeWords keywords text) :=
    (spread.isPartFrom member).inside (finds.stands member).1
  refine ⟨inside, finds.pairwise, ?_, ?_⟩
  · intro index hit here
    have member := List.mem_of_getElem? here
    unfold startOf
    cases following : (wholeWords keywords text)[index + 1]? with
    | none => exact ⟨(inside hit member).1, le_rfl⟩
    | some next =>
        obtain ⟨low, rfl⟩ := List.getElem?_eq_some_iff.mp here
        obtain ⟨high, rfl⟩ := List.getElem?_eq_some_iff.mp following
        have order := List.pairwise_iff_getElem.mp finds.pairwise index (index + 1) low high
          (Nat.lt_succ_self index)
        exact ⟨order.2, (finds.stands (List.getElem_mem high)).1⟩
  · exact spread.drop_eq

end MarkerReport.Occurrence

namespace MarkerReport.Finding

open Occurrence

/-- Each occurrence gives one finding, whose text is cut from what follows it. -/
theorem ofOccurrences_eq_mapIdx (line : Nat) (text : List Char) (hits : List Occurrence) :
    ofOccurrences line text hits = hits.mapIdx fun index hit =>
      ofWord line hit.word
        (commentText (segmentAt text hits index hit) (index + 1 == hits.length)) := by
  fun_induction ofOccurrences line text hits with
  | case1 => rfl
  | case2 hit =>
      rw [← extract_length]
      rfl
  | case3 hit next later ih =>
      rw [List.mapIdx_cons, ih]
      simp [segmentAt, startOf]

/-- Whatever the keywords are, the occurrences in a comment are those of a pass that comes to an
end. They split the text, each agrees with a keyword character by character, and each gives one
finding, for what follows it. -/
theorem inComment_splits_text (keywords : Keywords) (comment : Comment) :
    (∀ hits, Pass.Finds keywords.spellings comment.text Pass.start hits ↔
      hits = wholeWords keywords comment.text) ∧
    Splits comment.text (wholeWords keywords comment.text) ∧
    (∀ hit ∈ wholeWords keywords comment.text, ∃ word ∈ keywords.words,
      List.Forall₂ (fun c d => Text.fold c = Text.fold d) hit.word word.toList) ∧
    (inComment keywords comment = (wholeWords keywords comment.text).mapIdx fun index hit =>
      ofWord comment.line hit.word
        (commentText (segmentAt comment.text (wholeWords keywords comment.text) index hit)
          (index + 1 == (wholeWords keywords comment.text).length))) ∧
    (inComment keywords comment).length = (wholeWords keywords comment.text).length := by
  have findings := ofOccurrences_eq_mapIdx comment.line comment.text
    (wholeWords keywords comment.text)
  refine ⟨finds_start_iff keywords comment.text, splits_wholeWords keywords comment.text, ?_,
    findings, ?_⟩
  · intro hit member
    obtain ⟨spelling, listed, same⟩ :=
      ((spread_wholeWords keywords comment.text).isPartFrom member).spelled
    obtain ⟨word, among, rfl⟩ := List.mem_map.mp listed
    exact ⟨word, among, (Text.sameFolded_iff_forall₂ _ _).mp same⟩
  · rw [inComment, findings, List.length_mapIdx]

/-- One keyword is empty, and the other one holds a sign. Both ends of the letter give an empty
occurrence, and the end of the last occurrence gives none. -/
theorem inComment_splits_text_empty :
    wholeWords ⟨["A+B", ""], by simp⟩ "# c a+b".toList =
      [⟨2, []⟩, ⟨3, []⟩, ⟨4, "a+b".toList⟩] ∧
    Splits "# c a+b".toList [⟨2, []⟩, ⟨3, []⟩, ⟨4, "a+b".toList⟩] ∧
    (∃ word ∈ ["A+B", ""],
      List.Forall₂ (fun c d => Text.fold c = Text.fold d) "a+b".toList word.toList) ∧
    inComment ⟨["A+B", ""], by simp⟩ ⟨7, .hash, "# c a+b".toList⟩ =
      [⟨7, "", "c"⟩, ⟨7, "", ""⟩, ⟨7, "A+B", ""⟩] := by
  obtain ⟨pass, splits, agree, findings, -⟩ :=
    inComment_splits_text ⟨["A+B", ""], by simp⟩ ⟨7, .hash, "# c a+b".toList⟩
  have hits : wholeWords ⟨["A+B", ""], by simp⟩ "# c a+b".toList =
      [⟨2, []⟩, ⟨3, []⟩, ⟨4, "a+b".toList⟩] := by
    symm
    apply (pass _).mp
    apply Pass.Finds.found (by decide +kernel)
    apply Pass.Finds.found (by decide +kernel)
    apply Pass.Finds.found (by decide +kernel)
    exact .ended (by decide +kernel)
  rw [hits] at splits agree findings
  refine ⟨hits, splits, agree ⟨4, "a+b".toList⟩ (by decide), ?_⟩
  rw [findings]
  decide +kernel

end MarkerReport.Finding
