import Mathlib.Data.List.Induction
import MarkerReport.Scope.Map

/-! # Painted scope maps

Laying an interval over a scope map keeps its size and changes the lines of the map that the
interval covers. So a map that is painted with several intervals gives a line the name of the last
interval that covers it (`MarkerReport.ScopeMap.scopeFor_ofIntervals`).

An interval can be laid line by line as well, if it is cut to the lines of the file first. No line
is then written that the map does not have, wherever the interval starts and ends, and the map is
the same (`MarkerReport.ScopeMap.ofIntervals_names_last`).
-/

namespace MarkerReport

theorem Interval.covers_iff (interval : Interval) (line : Nat) :
    interval.covers line ↔ interval.first ≤ line ∧ line ≤ interval.last := by
  rw [covers, Bool.and_eq_true, decide_eq_true_eq, decide_eq_true_eq]

namespace ScopeMap

@[simp]
theorem size_moduleLevel (lineCount : Nat) : (moduleLevel lineCount).size = lineCount :=
  List.length_replicate

/-- Painting an interval keeps the size of a map. -/
@[simp]
theorem size_paint (map : ScopeMap) (interval : Interval) : (map.paint interval).size = map.size :=
  List.length_mapIdx

/-- The last interval is painted over all the others. -/
theorem ofIntervals_concat (lineCount : Nat) (intervals : List Interval) (last : Interval) :
    ofIntervals lineCount (intervals ++ [last]) = (ofIntervals lineCount intervals).paint last := by
  rw [ofIntervals, List.foldl_append]
  rfl

/-- A painted map has as many lines as were asked for. -/
@[simp]
theorem size_ofIntervals (lineCount : Nat) (intervals : List Interval) :
    (ofIntervals lineCount intervals).size = lineCount := by
  induction intervals using List.reverseRecOn with
  | nil => exact size_moduleLevel lineCount
  | append_singleton earlier last ih => rw [ofIntervals_concat, size_paint, ih]

/-- A line of the map is looked up, and one beyond it belongs to the module. -/
theorem scopeFor_eq_getElem {map : ScopeMap} {line : Nat} (positive : 1 ≤ line)
    (within : line ≤ map.size) : map.names[line - 1]? = some (map.scopeFor line) := by
  obtain ⟨index, rfl⟩ := Nat.exists_eq_add_of_le' positive
  have bound : index < map.names.length := within
  rw [Nat.add_sub_cancel, scopeFor, List.getElem?_eq_getElem bound, Option.getD_some]

/-- Before anything is painted every line belongs to the module. -/
theorem scopeFor_moduleLevel (lineCount line : Nat) :
    (moduleLevel lineCount).scopeFor line = moduleScope := by
  cases line with
  | zero => rfl
  | succ index =>
      rw [scopeFor, moduleLevel, List.getElem?_replicate]
      split <;> rfl

/-- Painting an interval gives its name to the lines it covers and to no others. -/
theorem scopeFor_paint {map : ScopeMap} {line : Nat} (positive : 1 ≤ line)
    (within : line ≤ map.size) (interval : Interval) :
    (map.paint interval).scopeFor line =
      if interval.covers line then interval.name else map.scopeFor line := by
  obtain ⟨index, rfl⟩ := Nat.exists_eq_add_of_le' positive
  have bound : index < map.names.length := within
  rw [scopeFor, scopeFor, paint, List.getElem?_mapIdx, List.getElem?_eq_getElem bound]
  rfl

/-- The last interval that covers a line gives it its name. -/
theorem scopeFor_ofIntervals {lineCount line : Nat} (positive : 1 ≤ line)
    (within : line ≤ lineCount) (intervals : List Interval) :
    (ofIntervals lineCount intervals).scopeFor line =
      ((intervals.filter (·.covers line)).getLast?.map (·.name)).getD moduleScope := by
  induction intervals using List.reverseRecOn with
  | nil => exact scopeFor_moduleLevel lineCount line
  | append_singleton earlier last ih =>
      have inside : line ≤ (ofIntervals lineCount earlier).size := by rwa [size_ofIntervals]
      rw [ofIntervals_concat, scopeFor_paint positive inside, ih, List.filter_append]
      by_cases covers : last.covers line
      · have taken : [last].filter (·.covers line) = [last] := by simp [covers]
        rw [if_pos covers, taken, List.getLast?_concat]
        rfl
      · have left : [last].filter (·.covers line) = [] := by simp [covers]
        rw [if_neg covers, left, List.append_nil]

/-- Maps that name the same lines alike are the same. -/
theorem eq_of_scopeFor {left right : ScopeMap} (size : left.size = right.size)
    (same : ∀ line, 1 ≤ line → line ≤ left.size → left.scopeFor line = right.scopeFor line) :
    left = right := by
  have names : left.names = right.names := by
    apply List.ext_getElem size
    intro index inLeft inRight
    have alike := same (index + 1) (Nat.le_add_left 1 index) inLeft
    simpa [scopeFor, inLeft, inRight] using alike
  cases left
  cases right
  exact congrArg ScopeMap.mk names

/-- Names one line of the map. There is nothing to write to on line zero and beyond the map. -/
def write? (map : ScopeMap) (line : Nat) (name : String) : Option ScopeMap :=
  if 1 ≤ line ∧ line ≤ map.size then some ⟨map.names.set (line - 1) name⟩ else none

/-- Lays an interval over the map of a file with the given number of lines, one line after the
other. -/
def paintLines? (lineCount : Nat) (map : ScopeMap) (interval : Interval) : Option ScopeMap :=
  let first := max interval.first 1
  let last := min interval.last lineCount
  (List.range' first (last + 1 - first)).foldlM (fun map line => map.write? line interval.name) map

/-- The map of a file whose definitions take the given intervals, written line by line. -/
def ofIntervals? (lineCount : Nat) (intervals : List Interval) : Option ScopeMap :=
  intervals.foldlM (paintLines? lineCount) (moduleLevel lineCount)

/-- Writing a line inside a map succeeds, and changes that line alone. -/
theorem exists_write? {map : ScopeMap} {line : Nat} (positive : 1 ≤ line)
    (within : line ≤ map.size) (name : String) :
    ∃ written, map.write? line name = some written ∧ written.size = map.size ∧
      ∀ other, 1 ≤ other →
        written.scopeFor other = if other = line then name else map.scopeFor other := by
  refine ⟨⟨map.names.set (line - 1) name⟩, if_pos ⟨positive, within⟩, List.length_set, ?_⟩
  intro other counted
  obtain ⟨index, rfl⟩ := Nat.exists_eq_add_of_le' counted
  obtain ⟨place, rfl⟩ := Nat.exists_eq_add_of_le' positive
  have bound : place < map.names.length := within
  rw [scopeFor, scopeFor, Nat.add_sub_cancel, List.getElem?_set]
  by_cases here : place = index
  · subst here
    simp [bound]
  · rw [if_neg here, if_neg (by omega)]

/-- Intervals of one name that cover the same lines of a map paint it alike. -/
theorem paint_congr {map : ScopeMap} {left right : Interval} (name : left.name = right.name)
    (covers : ∀ line, 1 ≤ line → line ≤ map.size → left.covers line = right.covers line) :
    map.paint left = map.paint right := by
  apply eq_of_scopeFor
  · rw [size_paint, size_paint]
  · intro line positive within
    rw [size_paint] at within
    rw [scopeFor_paint positive within, scopeFor_paint positive within, covers line positive within,
      name]

/-- One more line of an interval is written. -/
theorem write?_paint {map : ScopeMap} {first last : Nat} (started : first ≤ last + 1)
    (within : last + 1 ≤ map.size) (name : String) :
    (map.paint ⟨first, last, name⟩).write? (last + 1) name =
      some (map.paint ⟨first, last + 1, name⟩) := by
  obtain ⟨written, same, size, scopes⟩ :=
    exists_write? (Nat.le_add_left 1 last) ((size_paint map ⟨first, last, name⟩).symm ▸ within) name
  rw [same, Option.some.injEq]
  apply eq_of_scopeFor
  · rw [size, size_paint, size_paint]
  · intro line positive inside
    rw [size, size_paint] at inside
    rw [scopes line positive, scopeFor_paint positive inside, scopeFor_paint positive inside]
    by_cases here : line = last + 1
    · subst here
      rw [if_pos rfl, if_pos ((Interval.covers_iff _ _).mpr ⟨started, Nat.le_refl _⟩)]
    · have same : Interval.covers ⟨first, last, name⟩ line =
          Interval.covers ⟨first, last + 1, name⟩ line := by
        rw [Bool.eq_iff_iff, Interval.covers_iff, Interval.covers_iff]
        simp only
        omega
      rw [if_neg here, same]

/-- The lines of an interval that are written so far are those of a shorter interval. -/
theorem foldlM_write? {map : ScopeMap} {first count : Nat} (positive : 1 ≤ first)
    (within : 0 < count → first + count ≤ map.size + 1) (name : String) :
    (List.range' first count).foldlM (fun map line => map.write? line name) map =
      some (map.paint ⟨first, first + count - 1, name⟩) := by
  induction count with
  | zero =>
      have nothing : map.paint ⟨first, first + 0 - 1, name⟩ = map := by
        apply eq_of_scopeFor (size_paint map _)
        intro line counted inside
        rw [size_paint] at inside
        rw [scopeFor_paint counted inside, if_neg]
        rw [Interval.covers_iff]
        simp only
        omega
      rw [nothing]
      rfl
  | succ count ih =>
      obtain ⟨last, reached⟩ : ∃ last, first + count = last + 1 := ⟨first + count - 1, by omega⟩
      have room := within (Nat.succ_pos count)
      have step : (map.paint ⟨first, last, name⟩).write? (last + 1) name =
          some (map.paint ⟨first, last + 1, name⟩) := write?_paint (by omega) (by omega) name
      rw [List.range'_1_concat, List.foldlM_append, ih (by omega), ← Nat.add_assoc, reached,
        Nat.add_sub_cancel, Nat.add_sub_cancel]
      simp [step]

/-- Cut to the lines of the file, an interval is laid line by line without a line missing. -/
theorem paintLines?_eq {map : ScopeMap} {lineCount : Nat} (size : map.size = lineCount)
    (interval : Interval) : paintLines? lineCount map interval = some (map.paint interval) := by
  unfold paintLines?
  rw [foldlM_write? (Nat.le_max_right interval.first 1) (by omega), Option.some.injEq]
  apply paint_congr
  · rfl
  · intro line positive within
    rw [Bool.eq_iff_iff, Interval.covers_iff, Interval.covers_iff]
    simp only
    omega

/-- Painting line by line never fails and gives the same map. -/
theorem ofIntervals?_eq (lineCount : Nat) (intervals : List Interval) :
    ofIntervals? lineCount intervals = some (ofIntervals lineCount intervals) := by
  induction intervals using List.reverseRecOn with
  | nil => rfl
  | append_singleton earlier last ih =>
      rw [ofIntervals?] at ih ⊢
      rw [List.foldlM_append, ih, ofIntervals_concat]
      simp [paintLines?_eq (size_ofIntervals lineCount earlier)]

/-- An interval of the list that takes the line, with none behind it that does. -/
def IsLastCovering (intervals : List Interval) (line : Nat) (interval : Interval) : Prop :=
  ∃ before after, intervals = before ++ interval :: after ∧
    (interval.first ≤ line ∧ line ≤ interval.last) ∧
    ∀ later ∈ after, ¬ (later.first ≤ line ∧ line ≤ later.last)

/-- The last of the intervals that cover a line is the last covering one of the whole list. -/
theorem isLastCovering_of_getLast? {intervals : List Interval} {line : Nat} {interval : Interval}
    (final : (intervals.filter (·.covers line)).getLast? = some interval) :
    IsLastCovering intervals line interval := by
  obtain ⟨front, covering⟩ := List.getLast?_eq_some_iff.mp final
  obtain ⟨before, rest, rfl, -, behind⟩ := List.filter_eq_append_iff.mp covering
  obtain ⟨passed, after, rfl, -, covers, uncovered⟩ := List.filter_eq_cons_iff.mp behind
  refine ⟨before ++ passed, after, by rw [List.append_assoc], ?_, ?_⟩
  · exact (interval.covers_iff line).mp covers
  · intro later member
    rw [← later.covers_iff]
    exact List.filter_eq_nil_iff.mp uncovered later member

/-- Lines outside a map belong to the module. -/
theorem scopeFor_of_outside {map : ScopeMap} {line : Nat}
    (outside : ¬ (1 ≤ line ∧ line ≤ map.size)) : map.scopeFor line = moduleScope := by
  cases line with
  | zero => rfl
  | succ index =>
      have beyond : map.names.length ≤ index := by
        apply Nat.le_of_not_lt
        intro within
        exact outside ⟨Nat.le_add_left 1 index, within⟩
      rw [scopeFor, List.getElem?_eq_none beyond, Option.getD_none]

/-- Whatever the intervals are, painting them line by line writes no line that the file does not
have. The map has an entry for each line of the file, and a line of the file gets the name of the
last interval that takes it. Any other line belongs to the module. -/
theorem ofIntervals_names_last (lineCount : Nat) (intervals : List Interval) :
    ofIntervals? lineCount intervals = some (ofIntervals lineCount intervals) ∧
    (ofIntervals lineCount intervals).size = lineCount ∧
    ∀ line,
      (1 ≤ line ∧ line ≤ lineCount ∧ ∃ interval, IsLastCovering intervals line interval ∧
        (ofIntervals lineCount intervals).scopeFor line = interval.name) ∨
      (¬ (1 ≤ line ∧ line ≤ lineCount ∧
          ∃ interval ∈ intervals, interval.first ≤ line ∧ line ≤ interval.last) ∧
        (ofIntervals lineCount intervals).scopeFor line = moduleScope) := by
  refine ⟨ofIntervals?_eq lineCount intervals, size_ofIntervals lineCount intervals, ?_⟩
  intro line
  by_cases within : 1 ≤ line ∧ line ≤ lineCount
  · have scope := scopeFor_ofIntervals within.1 within.2 intervals
    cases final : (intervals.filter (·.covers line)).getLast? with
    | some interval =>
        rw [final] at scope
        exact .inl ⟨within.1, within.2, interval, isLastCovering_of_getLast? final, scope⟩
    | none =>
        rw [final] at scope
        refine .inr ⟨?_, scope⟩
        rintro ⟨-, -, interval, member, covers⟩
        rw [List.getLast?_eq_none_iff, List.filter_eq_nil_iff] at final
        exact final interval member ((interval.covers_iff line).mpr covers)
  · refine .inr ⟨fun covered => within ⟨covered.1, covered.2.1⟩, ?_⟩
    apply scopeFor_of_outside
    rwa [size_ofIntervals]

-- An interval that starts on line zero, one that ends before it starts, and one beyond the file.
example : (ofIntervals 3 [⟨0, 2, "a"⟩, ⟨3, 1, "b"⟩, ⟨3, 2 ^ 64 - 1, "c"⟩]).names =
    ["a", "a", "c"] := by
  decide

end ScopeMap

end MarkerReport
