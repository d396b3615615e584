import MarkerReport.Proofs.Scope.Nodes
import MarkerReport.Proofs.Scope.Painting
import MarkerReport.Scope.Resolve

/-! # Innermost scopes

The intervals of a syntax tree are painted in the order of the document. So a line gets the name of
the last definition that covers it (`MarkerReport.SyntaxTree.scopeFor_innermost`): none of the
definitions inside that one covers the line, and all others that do come before it. Definitions that
share a line and of which neither is inside the other are told apart by their order alone.
-/

namespace MarkerReport.SyntaxTree

/-- The node at the address is a definition with the given name that covers the line: it starts
there or before, and a node that counts towards its extent starts there or behind. -/
def CoversAt (tree : SyntaxTree) (address : List Nat) (name : String) (line : Nat) : Prop :=
  ∃ definition, tree.at? address = some definition ∧ definition.isDefinition ∧
    definition.name = some name ∧ definition.row + 1 ≤ line ∧ line ≤ definition.lastRow + 1

/-- A node has an interval exactly when it is a named definition, from its own line to the last it
reaches. -/
theorem interval?_eq_some_iff (tree : SyntaxTree) (interval : Interval) :
    tree.interval? = some interval ↔
      tree.isDefinition ∧ tree.name = some interval.name ∧ interval.first = tree.row + 1 ∧
        interval.last = tree.lastRow + 1 := by
  obtain ⟨first, last, name⟩ := interval
  rw [interval?, Option.ite_none_right_eq_some, Option.map_eq_some_iff]
  simp only [Interval.mk.injEq]
  constructor
  · rintro ⟨definition, found, named, rfl, rfl, rfl⟩
    exact ⟨definition, named, rfl, rfl⟩
  · rintro ⟨definition, named, rfl, rfl⟩
    exact ⟨definition, name, named, rfl, rfl, rfl⟩

/-- The interval of a node, if it covers the line. -/
def intervalAt? (line : Nat) (located : List Nat × SyntaxTree) : Option Interval :=
  located.2.interval?.filter (·.covers line)

/-- A definition covers a line exactly when its interval does. -/
theorem coversAt_iff (tree : SyntaxTree) (address : List Nat) (name : String) (line : Nat) :
    tree.CoversAt address name line ↔
      ∃ located ∈ tree.nodes, located.1 = address ∧
        ∃ interval, intervalAt? line located = some interval ∧ interval.name = name := by
  constructor
  · rintro ⟨definition, found, isDefinition, named, first, last⟩
    refine ⟨(address, definition), (mem_nodes_iff _ _ _).mpr found, rfl,
      ⟨definition.row + 1, definition.lastRow + 1, name⟩, ?_, rfl⟩
    rw [intervalAt?, Option.filter_eq_some_iff, interval?_eq_some_iff, Interval.covers_iff]
    exact ⟨⟨isDefinition, named, rfl, rfl⟩, first, last⟩
  · rintro ⟨⟨_, definition⟩, member, rfl, interval, found, rfl⟩
    rw [intervalAt?, Option.filter_eq_some_iff, interval?_eq_some_iff, Interval.covers_iff] at found
    obtain ⟨⟨isDefinition, named, first, last⟩, above, below⟩ := found
    exact ⟨definition, (mem_nodes_iff _ _ _).mp member, isDefinition, named, first ▸ above,
      last ▸ below⟩

/-- The last of the nodes that cover the line gives it its name. -/
theorem scopeFor_ofIntervals_intervals (tree : SyntaxTree) {lineCount line : Nat}
    (positive : 1 ≤ line) (within : line ≤ lineCount) :
    (ScopeMap.ofIntervals lineCount tree.intervals).scopeFor line =
      ((tree.nodes.filterMap (intervalAt? line)).getLast?.map (·.name)).getD moduleScope := by
  rw [ScopeMap.scopeFor_ofIntervals positive within, intervals_eq_filterMap, List.filter_filterMap]
  rfl

/-- A last result of a search comes from an element behind which nothing is found. -/
theorem exists_of_getLast?_filterMap {elements : List (List Nat × SyntaxTree)}
    {search : List Nat × SyntaxTree → Option Interval} {last : Interval}
    (found : (elements.filterMap search).getLast? = some last) :
    ∃ before element after, elements = before ++ element :: after ∧ search element = some last ∧
      ∀ other ∈ after, search other = none := by
  obtain ⟨earlier, results⟩ := List.getLast?_eq_some_iff.mp found
  obtain ⟨front, back, rfl, -, lastResults⟩ := List.filterMap_eq_append_iff.mp results
  obtain ⟨passed, element, after, rfl, -, here, beyond⟩ := List.filterMap_eq_cons_iff.mp lastResults
  refine ⟨front ++ passed, element, after, by rw [List.append_assoc], here, ?_⟩
  exact List.filterMap_eq_nil_iff.mp beyond

/-- A line that no definition covers belongs to the module. -/
theorem scopeFor_of_uncovered {tree : SyntaxTree} {lineCount line : Nat} (positive : 1 ≤ line)
    (within : line ≤ lineCount) (uncovered : ∀ address name, ¬ tree.CoversAt address name line) :
    (ScopeMap.ofIntervals lineCount tree.intervals).scopeFor line = moduleScope := by
  have nothing : tree.nodes.filterMap (intervalAt? line) = [] := by
    rw [List.filterMap_eq_nil_iff]
    intro located member
    cases found : intervalAt? line located with
    | none => rfl
    | some interval =>
        have covers := (coversAt_iff tree located.1 interval.name line).mpr
          ⟨located, member, rfl, interval, found, rfl⟩
        exact (uncovered _ _ covers).elim
  rw [scopeFor_ofIntervals_intervals tree positive within, nothing]
  rfl

/-- Of the definitions that cover a line, the last one names it. -/
theorem exists_last_of_covered {tree : SyntaxTree} {lineCount line : Nat} (positive : 1 ≤ line)
    (within : line ≤ lineCount) (covered : ∃ address name, tree.CoversAt address name line) :
    ∃ address name, tree.CoversAt address name line ∧
      (ScopeMap.ofIntervals lineCount tree.intervals).scopeFor line = name ∧
      ∀ earlier other, tree.CoversAt earlier other line → earlier ≠ address →
        earlier < address := by
  obtain ⟨first, firstName, covers⟩ := covered
  obtain ⟨located, member, -, interval, found, -⟩ := (coversAt_iff _ _ _ _).mp covers
  have listed : interval ∈ tree.nodes.filterMap (intervalAt? line) :=
    List.mem_filterMap.mpr ⟨located, member, found⟩
  obtain ⟨last, final⟩ : ∃ last,
      (tree.nodes.filterMap (intervalAt? line)).getLast? = some last :=
    Option.isSome_iff_exists.mp (List.getLast?_isSome.mpr (List.ne_nil_of_mem listed))
  obtain ⟨before, ⟨address, definition⟩, after, whole, here, beyond⟩ :=
    exists_of_getLast?_filterMap final
  refine ⟨address, last.name, ?_, ?_, ?_⟩
  · refine (coversAt_iff _ _ _ _).mpr ⟨(address, definition), ?_, rfl, last, here, rfl⟩
    rw [whole]
    exact List.mem_append_right _ List.mem_cons_self
  · rw [scopeFor_ofIntervals_intervals tree positive within, final]
    rfl
  · intro earlier other alsoCovers apart
    obtain ⟨located, member, rfl, interval, found, -⟩ := (coversAt_iff _ _ _ _).mp alsoCovers
    have order := tree.pairwise_nodes
    rw [whole] at member order
    -- Nodes that come earlier in the list have lesser addresses, and none behind covers the line.
    rcases List.mem_append.mp member with early | late
    · exact (List.pairwise_append.mp order).2.2 _ early _ List.mem_cons_self
    · rcases List.mem_cons.mp late with rfl | behind
      · exact (apart rfl).elim
      · exact (Option.some_ne_none _ (found.symm.trans (beyond _ behind))).elim

/-- A tree without statements of the older version yields its intervals. -/
theorem definitions_of_current {tree : SyntaxTree} (current : tree.outdated? = none) :
    tree.definitions = .ok tree.intervals := by
  rw [definitions, current]

/-- The scope map of a syntax tree without outdated statements names every line of the source after
the innermost definition that covers it. Where several do, none of them inside another, it is the
last of them in the order of the document, in which a definition comes before those inside it. -/
theorem scopeFor_innermost (tree : SyntaxTree) (current : tree.outdated? = none)
    (source : List Char) :
    ∃ intervals, tree.definitions = .ok intervals ∧
      (Python.parse? source = some tree →
        ScopeMap.resolve .syntaxTree source =
          .ok (.ofIntervals (Text.lines source).length intervals)) ∧
      ∀ line, 1 ≤ line → line ≤ (Text.lines source).length →
        ((∀ address name, ¬ tree.CoversAt address name line) →
          (ScopeMap.ofIntervals (Text.lines source).length intervals).scopeFor line =
            moduleScope) ∧
        ((∃ address name, tree.CoversAt address name line) →
          ∃ address name, tree.CoversAt address name line ∧
            (ScopeMap.ofIntervals (Text.lines source).length intervals).scopeFor line = name ∧
            (∀ inner other, address <+: inner → inner ≠ address →
              ¬ tree.CoversAt inner other line) ∧
            ∀ other otherName, tree.CoversAt other otherName line → other ≠ address →
              other < address) := by
  refine ⟨tree.intervals, definitions_of_current current, fun parsed => ?_, ?_⟩
  · rw [ScopeMap.resolve, Python.definitions, parsed]
    simp only [definitions_of_current current]
  · intro line positive within
    refine ⟨scopeFor_of_uncovered positive within, fun covered => ?_⟩
    obtain ⟨address, name, covers, named, order⟩ := exists_last_of_covered positive within covered
    refine ⟨address, name, covers, named, fun inner other nested apart also => ?_, order⟩
    exact nested.le (order inner other also apart)

/-- A class with two methods, the second of which starts on the last line of the first. -/
def sharedLine : SyntaxTree :=
  .node .module 0 0 none
    [.node .classDefinition 0 0 (some "A")
      [.node .functionDefinition 1 2 (some "b") [.node .statement 2 4 none []],
        .node .functionDefinition 2 10 (some "c") [],
        .node .functionDefinition 2 20 none [],
        .node .comment 3 2 none []]]

/-- The second method names the line that the two share. The same holds of the tree of a source. -/
theorem scopeFor_innermost_sharedLine :
    sharedLine.outdated? = none ∧
    sharedLine.definitions = .ok [⟨1, 3, "A"⟩, ⟨2, 3, "b"⟩, ⟨3, 3, "c"⟩] ∧
    (∃ address, sharedLine.CoversAt address "c" 3 ∧
      (∀ inner other, address <+: inner → inner ≠ address → ¬ sharedLine.CoversAt inner other 3) ∧
      ∀ other otherName, sharedLine.CoversAt other otherName 3 → other ≠ address →
        other < address) ∧
    ∃ tree map, Python.parse? "class A:\n  def b(): pass\n".toList = some tree ∧
      ScopeMap.resolve .syntaxTree "class A:\n  def b(): pass\n".toList = .ok map := by
  have current : sharedLine.outdated? = none := rfl
  have listed : sharedLine.definitions = .ok [⟨1, 3, "A"⟩, ⟨2, 3, "b"⟩, ⟨3, 3, "c"⟩] := rfl
  refine ⟨current, listed, ?_, ?_⟩
  · obtain ⟨intervals, same, -, lines⟩ := scopeFor_innermost sharedLine current "1\n2\n3\n4".toList
    obtain rfl := Except.ok.inj (same.symm.trans listed)
    have covered : sharedLine.CoversAt [0, 0] "b" 3 :=
      ⟨_, rfl, rfl, rfl, by decide, by decide⟩
    obtain ⟨address, name, covers, named, innermost, order⟩ :=
      (lines 3 (by decide) (by decide)).2 ⟨_, _, covered⟩
    have isSecond : "c" = name := by
      rw [← named]
      decide
    exact ⟨address, isSecond ▸ covers, innermost, order⟩
  · have accepted : ((Python.parse? "class A:\n  def b(): pass\n".toList).filter
        (·.outdated?.isNone)).isSome := by decide +kernel
    obtain ⟨tree, found⟩ := Option.isSome_iff_exists.mp accepted
    obtain ⟨parsed, upToDate⟩ := Option.filter_eq_some_iff.mp found
    obtain ⟨intervals, -, resolved, -⟩ :=
      scopeFor_innermost tree (Option.isNone_iff_eq_none.mp upToDate) _
    exact ⟨tree, _, parsed, resolved parsed⟩

end MarkerReport.SyntaxTree
