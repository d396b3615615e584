import MarkerReport.Proofs.Scope.Extent
import MarkerReport.Proofs.Scope.Innermost

/-! # Nested scopes

The intervals of the definitions of a syntax tree are nested as the definitions are, provided that
rows do not decrease in the order of the document and that no definition is a part of a comment, or
of a string outside its interpolations. Then a definition counts towards every definition above it,
and all that counts towards a definition comes before the definitions behind it. So the interval of
an inner definition lies within that of the outer one, and two definitions of which neither is
inside the other share one line at most: the last of the first and the first of the second
(`MarkerReport.SyntaxTree.intervals_nested`).
-/

namespace MarkerReport.SyntaxTree

/-- In the order of the document, no node starts on an earlier row than the one before it. -/
def RowsAscend (tree : SyntaxTree) : Prop :=
  tree.nodes.Pairwise fun first second => first.2.row ≤ second.2.row

/-- No definition with a name stands in a part that does not count: below a comment, or at or below
a child of a string that is no interpolation. -/
def DefinitionsCount (tree : SyntaxTree) : Prop :=
  ∀ located ∈ tree.nodes, ∀ child ∈ located.2.children,
    located.2.kind = .comment ∨ located.2.kind = .string ∧ child.kind ≠ .interpolation →
      ∀ inside ∈ child.nodes, inside.2.interval? = none

instance (tree : SyntaxTree) : Decidable tree.RowsAscend :=
  inferInstanceAs (Decidable (tree.nodes.Pairwise fun first second => first.2.row ≤ second.2.row))

instance (tree : SyntaxTree) : Decidable tree.DefinitionsCount :=
  inferInstanceAs (Decidable (∀ located ∈ tree.nodes, ∀ child ∈ located.2.children,
    located.2.kind = .comment ∨ located.2.kind = .string ∧ child.kind ≠ .interpolation →
      ∀ inside ∈ child.nodes, inside.2.interval? = none))

/-- The node at the address is a definition with a name. Its interval starts where the node does,
and ends where the search from the node does. -/
def IntervalAt (tree : SyntaxTree) (address : List Nat) (interval : Interval) : Prop :=
  ∃ definition, tree.at? address = some definition ∧ definition.isDefinition ∧
    definition.name = some interval.name ∧ interval.first = definition.row + 1 ∧
    interval.last = (Search.start definition).run + 1

/-- A comment is no definition. -/
theorem ne_comment_of_interval? {tree : SyntaxTree} {interval : Interval}
    (takes : tree.interval? = some interval) : tree.kind ≠ .comment := by
  intro comment
  obtain ⟨definition, -⟩ := (interval?_eq_some_iff tree interval).mp takes
  simp [isDefinition, comment] at definition

/-- The interval at an address is the one of the node there. -/
theorem intervalAt_iff (tree : SyntaxTree) (address : List Nat) (interval : Interval) :
    tree.IntervalAt address interval ↔
      ∃ definition, tree.at? address = some definition ∧ definition.interval? = some interval := by
  have ends {definition : SyntaxTree} (takes : definition.isDefinition) :
      (Search.start definition).run = definition.lastRow := by
    rw [Search.run_start, if_neg]
    intro comment
    simp [isDefinition, comment] at takes
  constructor
  · rintro ⟨definition, located, takes, named, first, last⟩
    rw [ends takes] at last
    exact ⟨definition, located, (interval?_eq_some_iff _ _).mpr ⟨takes, named, first, last⟩⟩
  · rintro ⟨definition, located, found⟩
    obtain ⟨takes, named, first, last⟩ := (interval?_eq_some_iff _ _).mp found
    rw [← ends takes] at last
    exact ⟨definition, located, takes, named, first, last⟩

/-- Every interval of a tree is that of the definition at some address. -/
theorem mem_intervals_iff (tree : SyntaxTree) (interval : Interval) :
    interval ∈ tree.intervals ↔ ∃ address, tree.IntervalAt address interval := by
  simp only [intervals_eq_filterMap, List.mem_filterMap, intervalAt_iff, ← mem_nodes_iff,
    Prod.exists]

/-- An address leads on from where its first part leads. -/
theorem at?_append (tree : SyntaxTree) (address rest : List Nat) :
    tree.at? (address ++ rest) = (tree.at? address).bind (·.at? rest) := by
  induction address generalizing tree with
  | nil => rfl
  | cons index address ih =>
      rw [List.cons_append, at?, at?, Option.bind_assoc]
      simp only [ih]

/-- The nodes below the node at an address are nodes of the whole tree, further down by that
address. -/
theorem mem_nodes_of_at? {tree above found : SyntaxTree} {address rest : List Nat}
    (located : tree.at? address = some above) (member : (rest, found) ∈ above.nodes) :
    (address ++ rest, found) ∈ tree.nodes := by
  rw [mem_nodes_iff] at member ⊢
  rw [at?_append, located]
  exact member

/-- The nodes of a child are nodes of the tree. -/
theorem mem_nodes_of_mem_children {tree child found : SyntaxTree} {rest : List Nat}
    (listed : child ∈ tree.children) (member : (rest, found) ∈ child.nodes) :
    ∃ index, (index :: rest, found) ∈ tree.nodes := by
  obtain ⟨index, located⟩ := List.getElem?_of_mem listed
  have here : tree.at? [index] = some child := by simp [at?, located]
  exact ⟨index, mem_nodes_of_at? here member⟩

/-- A node that counts towards the extent of a tree is one of its nodes. -/
theorem Counts.exists_mem_nodes {tree found : SyntaxTree} (counts : tree.Counts found) :
    ∃ rest, (rest, found) ∈ tree.nodes := by
  induction counts with
  | self tree => exact ⟨[], by rw [nodes_eq]; exact List.mem_cons_self⟩
  | under uncommented member kept interpolated rest ih =>
      obtain ⟨address, below⟩ := ih
      obtain ⟨index, listed⟩ := mem_nodes_of_mem_children member below
      exact ⟨index :: address, listed⟩

/-- Where all definitions count in a tree, they do in every part of it. -/
theorem DefinitionsCount.below {tree above : SyntaxTree} {address : List Nat}
    (counted : tree.DefinitionsCount) (located : tree.at? address = some above) :
    above.DefinitionsCount := by
  intro node member
  exact counted (address ++ node.1, node.2) (mem_nodes_of_at? located member)

/-- A definition counts towards all nodes above it. -/
theorem DefinitionsCount.counts {tree found : SyntaxTree} (counted : tree.DefinitionsCount)
    {address : List Nat} (located : tree.at? address = some found) {interval : Interval}
    (takes : found.interval? = some interval) : tree.Counts found := by
  induction address generalizing tree with
  | nil =>
      obtain rfl := Option.some.inj located
      exact .self tree
  | cons index rest ih =>
      rw [at?, Option.bind_eq_some_iff] at located
      obtain ⟨child, listed, below⟩ := located
      have member := List.mem_of_getElem? listed
      have here : tree.at? [index] = some child := by simp [at?, listed]
      have counts := ih (counted.below here) below
      have root : ([], tree) ∈ tree.nodes := by
        rw [nodes_eq]
        exact List.mem_cons_self
      have unclosed :
          ¬ (tree.kind = .comment ∨ tree.kind = .string ∧ child.kind ≠ .interpolation) := by
        intro closed
        have nothing := counted _ root child member closed _ ((mem_nodes_iff _ _ _).mpr below)
        exact Option.some_ne_none _ (takes.symm.trans nothing)
      rw [not_or, not_and, not_not] at unclosed
      refine .under unclosed.1 member ?_ unclosed.2 counts
      -- The child is no comment: it is the definition, or the definition counts towards it.
      intro comment
      cases counts with
      | self => exact ne_comment_of_interval? takes comment
      | under uncommented => exact uncommented comment

/-- Where rows ascend, a node earlier in preorder starts no later. -/
theorem RowsAscend.row_le {tree : SyntaxTree} (ascend : tree.RowsAscend) {first second : List Nat}
    {earlier later : SyntaxTree} (here : (first, earlier) ∈ tree.nodes)
    (there : (second, later) ∈ tree.nodes) (order : first < second) : earlier.row ≤ later.row := by
  have ordered := tree.pairwise_nodes.and ascend
  obtain ⟨before, after, whole⟩ := List.append_of_mem here
  rw [whole] at there ordered
  rw [List.pairwise_append, List.pairwise_cons] at ordered
  rcases List.mem_append.mp there with early | late
  · have reverse := (ordered.2.2 _ early _ List.mem_cons_self).1
    exact (lt_asymm order reverse).elim
  · rcases List.mem_cons.mp late with same | behind
    · exact (order.ne (Prod.mk.inj same).1.symm).elim
    · exact (ordered.2.1.1 _ behind).2

/-- An address before another that it does not lead to stays before it however it goes on. -/
theorem append_lt_of_lt {address other : List Nat} (order : address < other)
    (apart : ¬ address <+: other) (rest : List Nat) : address ++ rest < other := by
  induction address generalizing other with
  | nil => exact (apart List.nil_prefix).elim
  | cons index address ih =>
      cases other with
      | nil => exact (List.not_lt_nil _ order).elim
      | cons place other =>
          rw [List.cons_append, List.cons_lt_cons_iff] at *
          rcases order with less | ⟨rfl, less⟩
          · exact .inl less
          · rw [List.cons_prefix_cons] at apart
            exact .inr ⟨rfl, ih less fun leads => apart ⟨rfl, leads⟩⟩

/-- All that counts towards a node comes before the nodes that are behind it and not below it. -/
theorem RowsAscend.lastRow_le {tree : SyntaxTree} (ascend : tree.RowsAscend)
    {first second : List Nat} {earlier later : SyntaxTree}
    (here : tree.at? first = some earlier) (uncommented : earlier.kind ≠ .comment)
    (there : tree.at? second = some later) (order : first < second) (apart : ¬ first <+: second) :
    earlier.lastRow ≤ later.row := by
  obtain ⟨found, counts, row⟩ := exists_counts_row_eq uncommented
  obtain ⟨rest, member⟩ := counts.exists_mem_nodes
  rw [← row]
  exact ascend.row_le (mem_nodes_of_at? here member) ((mem_nodes_iff _ _ _).mpr there)
    (append_lt_of_lt order apart rest)

/-- The interval of a definition below another one lies within the interval of that one. -/
theorem interval_within {tree : SyntaxTree} (ascend : tree.RowsAscend)
    (counted : tree.DefinitionsCount) {outer inner : List Nat} {wide narrow : Interval}
    (above : tree.IntervalAt outer wide) (below : tree.IntervalAt inner narrow)
    (nested : outer <+: inner) : wide.first ≤ narrow.first ∧ narrow.last ≤ wide.last := by
  obtain ⟨holder, here, takes⟩ := (intervalAt_iff _ _ _).mp above
  obtain ⟨held, there, taken⟩ := (intervalAt_iff _ _ _).mp below
  obtain ⟨-, -, first, last⟩ := (interval?_eq_some_iff _ _).mp takes
  obtain ⟨-, -, innerFirst, innerLast⟩ := (interval?_eq_some_iff _ _).mp taken
  obtain ⟨rest, rfl⟩ := nested
  rw [first, last, innerFirst, innerLast]
  have inside : holder.at? rest = some held := by
    rw [at?_append, here] at there
    exact there
  constructor
  · apply Nat.succ_le_succ
    rcases eq_or_ne rest [] with rfl | proper
    · exact (congrArg row (Option.some.inj inside)).le
    · obtain ⟨index, behind, rfl⟩ := List.exists_cons_of_ne_nil proper
      have order : outer < outer ++ index :: behind := by
        simpa using List.Lex.append_left (· < ·) (List.Lex.nil (a := index) (l := behind)) outer
      exact ascend.row_le ((mem_nodes_iff _ _ _).mpr here) ((mem_nodes_iff _ _ _).mpr there) order
  · exact Nat.succ_le_succ ((counted.below here).counts inside taken).lastRow_le

/-- Definitions of which neither contains the other share at most one line, the last of the one and
the first of the other. -/
theorem eq_of_shared_line {tree : SyntaxTree} (ascend : tree.RowsAscend) {first second : List Nat}
    {early late : Interval} (here : tree.IntervalAt first early)
    (there : tree.IntervalAt second late) (order : first < second) (apart : ¬ first <+: second)
    {line : Nat} (inEarly : line ≤ early.last) (inLate : late.first ≤ line) :
    line = early.last ∧ line = late.first := by
  obtain ⟨earlier, located, takes⟩ := (intervalAt_iff _ _ _).mp here
  obtain ⟨later, placed, taken⟩ := (intervalAt_iff _ _ _).mp there
  obtain ⟨-, -, -, last⟩ := (interval?_eq_some_iff _ _).mp takes
  obtain ⟨-, -, start, -⟩ := (interval?_eq_some_iff _ _).mp taken
  have before := ascend.lastRow_le located (ne_comment_of_interval? takes) placed order apart
  omega

/-- Where rows ascend and definitions count, the search from any node ends, and has then met the
greatest row of the nodes that count towards it. The intervals of the definitions, which end where
the search does, do not end before they start; they are nested as the definitions are; and two of
which neither is inside the other share at most the last line of the one that comes first, which is
then the first line of the other. -/
theorem intervals_nested (tree : SyntaxTree) (ascend : tree.RowsAscend)
    (counted : tree.DefinitionsCount) :
    (∀ node : SyntaxTree,
      Relation.ReflTransGen (fun search next => Search.step search = some next)
        (Search.start node) ⟨(Search.start node).run, []⟩ ∧
      IsGreatest {row | ∃ found, node.Counts found ∧ row = found.row} (Search.start node).run) ∧
    (∀ intervals, tree.definitions = .ok intervals → intervals = tree.intervals) ∧
    (∀ interval, interval ∈ tree.intervals ↔ ∃ address, tree.IntervalAt address interval) ∧
    (∀ interval ∈ tree.intervals, interval.first ≤ interval.last) ∧
    (∀ outer inner wide narrow, tree.IntervalAt outer wide → tree.IntervalAt inner narrow →
      outer <+: inner → wide.first ≤ narrow.first ∧ narrow.last ≤ wide.last) ∧
    ∀ first second early late, tree.IntervalAt first early → tree.IntervalAt second late →
      first < second → ¬ first <+: second →
      ∀ line, early.covers line → late.covers line → line = early.last ∧ line = late.first := by
  refine ⟨fun node => ⟨Search.steps_run _, isGreatest_run_start node⟩, ?_, mem_intervals_iff tree,
    ?_, ?_, ?_⟩
  · intro intervals found
    unfold definitions at found
    split at found
    · simp at found
    · exact (Except.ok.inj found).symm
  · intro interval listed
    obtain ⟨address, definition, -, -, -, first, last⟩ :=
      (mem_intervals_iff tree interval).mp listed
    rw [first, last]
    exact Nat.succ_le_succ ((isGreatest_run_start definition).2 ⟨definition, .self _, rfl⟩)
  · intro outer inner wide narrow above below nested
    exact interval_within ascend counted above below nested
  · intro first second early late here there order apart line inEarly inLate
    exact eq_of_shared_line ascend here there order apart
      ((early.covers_iff line).mp inEarly).2 ((late.covers_iff line).mp inLate).1

/-- A class with two methods. The first one ends in an interpolation, on the line on which the
second one starts; the rest of a string and a comment behind it do not count. -/
def interpolated : SyntaxTree :=
  .node .module 0 0 none
    [.node .classDefinition 0 0 (some "A")
      [.node .functionDefinition 1 2 (some "b")
          [.node .string 2 4 none [.node .interpolation 3 0 none [.node .expression 4 1 none []]]],
        .node .functionDefinition 4 9 (some "c")
          [.node .string 4 20 none [.node .expression 5 0 none []], .node .comment 6 0 none []]]]

/-- The two methods lie within the class, and share one line. -/
theorem intervals_nested_interpolated :
    interpolated.RowsAscend ∧ interpolated.DefinitionsCount ∧
    interpolated.definitions = .ok [⟨1, 5, "A"⟩, ⟨2, 5, "b"⟩, ⟨5, 5, "c"⟩] ∧
    interpolated.IntervalAt [0] ⟨1, 5, "A"⟩ ∧ interpolated.IntervalAt [0, 0] ⟨2, 5, "b"⟩ ∧
    interpolated.IntervalAt [0, 1] ⟨5, 5, "c"⟩ ∧
    (1 ≤ 2 ∧ 5 ≤ 5) ∧ ∀ line, Interval.covers ⟨2, 5, "b"⟩ line → Interval.covers ⟨5, 5, "c"⟩ line →
      line = 5 := by
  have ascend : interpolated.RowsAscend := by decide
  have counted : interpolated.DefinitionsCount := by decide
  have outer : interpolated.IntervalAt [0] ⟨1, 5, "A"⟩ := (intervalAt_iff _ _ _).mpr ⟨_, rfl, rfl⟩
  have first : interpolated.IntervalAt [0, 0] ⟨2, 5, "b"⟩ :=
    (intervalAt_iff _ _ _).mpr ⟨_, rfl, rfl⟩
  have second : interpolated.IntervalAt [0, 1] ⟨5, 5, "c"⟩ :=
    (intervalAt_iff _ _ _).mpr ⟨_, rfl, rfl⟩
  obtain ⟨-, -, -, -, within, apart⟩ := intervals_nested interpolated ascend counted
  refine ⟨ascend, counted, rfl, outer, first, second, ?_, ?_⟩
  · exact within [0] [0, 0] _ _ outer first (by decide)
  · intro line inFirst inSecond
    exact (apart [0, 0] [0, 1] _ _ first second (by decide) (by decide) line inFirst inSecond).1

end MarkerReport.SyntaxTree
