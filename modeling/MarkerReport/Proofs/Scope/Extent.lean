import Mathlib.Data.List.Flatten
import Mathlib.Data.List.Perm.Basic
import Mathlib.Logic.Relation
import Mathlib.Order.Bounds.Basic
import MarkerReport.Proofs.Scope.Nodes

/-! # How far a node reaches

A node reaches to the last row on which it or a node that counts towards it starts. The way to such
a node leads through no comment, and from a string only into its interpolations.

The row can be found with a stack of nodes in place of a recursion. Each step takes the node on top,
and puts those below it that may count in its place. The last row met so far together with the rows
that the nodes on the stack reach to never changes, and the nodes on the stack and below them get
fewer. So the search comes to an end, and has then met the row that the node reaches to
(`MarkerReport.SyntaxTree.isGreatest_run_start`).
-/

namespace MarkerReport.SyntaxTree

/-- The node itself, and the nodes below it that count towards its extent. -/
inductive Counts : SyntaxTree → SyntaxTree → Prop
  | self (tree : SyntaxTree) : Counts tree tree
  | under {tree child found : SyntaxTree} (uncommented : tree.kind ≠ .comment)
      (member : child ∈ tree.children) (kept : child.kind ≠ .comment)
      (interpolated : tree.kind = .string → child.kind = .interpolation)
      (rest : Counts child found) : Counts tree found

theorem countsBelow_iff (above : NodeKind) (tree : SyntaxTree) :
    tree.countsBelow above ↔
      tree.kind ≠ .comment ∧ (above = .string → tree.kind = .interpolation) := by
  rw [countsBelow, Bool.and_eq_true, Bool.or_eq_true, bne_iff_ne, bne_iff_ne, beq_iff_eq,
    ← imp_iff_not_or]

/-- The last row below a node is a least upper bound of those of the nodes that count there. -/
theorem lastRowBelow_le_iff (above : NodeKind) (trees : List SyntaxTree) (bound : Nat) :
    lastRowBelow above trees ≤ bound ↔
      ∀ tree ∈ trees, tree.countsBelow above → tree.lastRow ≤ bound := by
  induction trees with
  | nil => simp [lastRowBelow]
  | cons tree later ih =>
      rw [lastRowBelow, Nat.max_le, ih, List.forall_mem_cons]
      by_cases counts : tree.countsBelow above
      · simp [counts]
      · simp [counts]

/-- The last row of a node is a least upper bound of its own row and of the last rows of the
children that count. -/
theorem lastRow_le_iff (tree : SyntaxTree) (bound : Nat) :
    tree.lastRow ≤ bound ↔
      tree.row ≤ bound ∧
        ∀ child ∈ tree.children, child.countsBelow tree.kind → child.lastRow ≤ bound := by
  have split : tree.lastRow = max tree.row (lastRowBelow tree.kind tree.children) := by
    cases tree
    rw [lastRow, row, kind, children]
  rw [split, Nat.max_le, lastRowBelow_le_iff]

/-- A node reaches at least to its own row. -/
theorem row_le_lastRow (tree : SyntaxTree) : tree.row ≤ tree.lastRow :=
  ((lastRow_le_iff tree tree.lastRow).mp le_rfl).1

/-- A node reaches as far as any child that counts. -/
theorem lastRow_le_of_mem_children {tree child : SyntaxTree} (member : child ∈ tree.children)
    (counts : child.countsBelow tree.kind) : child.lastRow ≤ tree.lastRow :=
  ((lastRow_le_iff tree tree.lastRow).mp le_rfl).2 child member counts

/-- A node reaches as far as any node that counts towards its extent. -/
theorem Counts.lastRow_le {tree found : SyntaxTree} (counts : tree.Counts found) :
    found.lastRow ≤ tree.lastRow := by
  induction counts with
  | self tree => exact le_rfl
  | under uncommented member kept interpolated rest ih =>
      exact ih.trans (lastRow_le_of_mem_children member
        ((countsBelow_iff _ _).mpr ⟨kept, interpolated⟩))

/-- The last row is that of a node that counts. -/
theorem exists_counts_row_eq {tree : SyntaxTree} (uncommented : tree.kind ≠ .comment) :
    ∃ found, tree.Counts found ∧ found.row = tree.lastRow := by
  induction tree using byChildren with
  | node tree ih =>
      by_cases own : tree.lastRow ≤ tree.row
      · exact ⟨tree, .self tree, (row_le_lastRow tree).antisymm own⟩
      · -- The rows of the node and of all its children cannot be smaller than the last row.
        obtain ⟨child, member, counts, reaches⟩ : ∃ child ∈ tree.children,
            child.countsBelow tree.kind ∧ tree.lastRow ≤ child.lastRow := by
          by_contra short
          push Not at short
          have smaller : tree.lastRow ≤ tree.lastRow - 1 := by
            rw [lastRow_le_iff]
            refine ⟨by omega, ?_⟩
            intro child member counts
            exact Nat.le_sub_one_of_lt (short child member counts)
          omega
        obtain ⟨kept, interpolated⟩ := (countsBelow_iff _ _).mp counts
        obtain ⟨found, below, row⟩ := ih child member kept
        refine ⟨found, .under uncommented member kept interpolated below, ?_⟩
        rw [row]
        exact (lastRow_le_of_mem_children member counts).antisymm reaches

/-- A search for the last row: the last row met so far, and the nodes that are still to be visited,
the next one first. -/
structure Search where
  last : Nat
  pending : List SyntaxTree

namespace Search

/-- The search before any node is visited. -/
def start (tree : SyntaxTree) : Search := ⟨tree.row, [tree]⟩

/-- The nodes below a node that are visited in their turn. A comment among them is left out only
when its turn comes. -/
def visited (tree : SyntaxTree) : List SyntaxTree :=
  if tree.kind = .string then tree.children.filter (·.kind == .interpolation) else tree.children

/-- Visits the next node. -/
def step (search : Search) : Option Search :=
  match search.pending with
  | [] => none
  | tree :: rest =>
      if tree.kind = .comment then some ⟨search.last, rest⟩
      else some ⟨max search.last tree.row, (visited tree).reverse ++ rest⟩

/-- How many nodes are pending or below a pending one. -/
def weight (search : Search) : Nat := (search.pending.flatMap (·.nodes)).length

/-- The last row that the search will have met. -/
def reach (search : Search) : Nat := max search.last (lastRowBelow .module search.pending)

/-- The search goes on to all children of a node, but of a string only to the interpolations. -/
theorem mem_visited_iff (tree child : SyntaxTree) :
    child ∈ visited tree ↔
      child ∈ tree.children ∧ (tree.kind = .string → child.kind = .interpolation) := by
  unfold visited
  split
  · rename_i string
    rw [List.mem_filter, beq_iff_eq, string]
    simp
  · rename_i other
    simp [other]

/-- Either the next node is a comment and is dropped, or its row is met and the nodes below it take
its place. -/
theorem step_cases {search next : Search} (stepped : search.step = some next) :
    ∃ tree rest, search.pending = tree :: rest ∧
      (tree.kind = .comment ∧ next = ⟨search.last, rest⟩ ∨
        tree.kind ≠ .comment ∧
          next = ⟨max search.last tree.row, (visited tree).reverse ++ rest⟩) := by
  unfold step at stepped
  split at stepped
  · simp at stepped
  · rename_i tree rest pending
    refine ⟨tree, rest, pending, ?_⟩
    split at stepped
    · rename_i comment
      exact .inl ⟨comment, (Option.some.inj stepped).symm⟩
    · rename_i other
      exact .inr ⟨other, (Option.some.inj stepped).symm⟩

/-- The nodes below a list of trees are those of each of them. -/
theorem length_nodesBelow (index : Nat) (trees : List SyntaxTree) :
    (nodesBelow index trees).length = (trees.flatMap (·.nodes)).length := by
  induction trees generalizing index with
  | nil => rfl
  | cons tree later ih =>
      rw [nodesBelow, List.length_append, List.length_map, ih, List.flatMap_cons,
        List.length_append]

/-- There are fewer nodes in what is put on the stack than in the node that it takes the place
of. -/
theorem length_flatMap_nodes_lt {tree : SyntaxTree} {part : List SyntaxTree}
    (below : List.Sublist part tree.children) :
    (part.reverse.flatMap (·.nodes)).length < tree.nodes.length := by
  rw [(part.reverse_perm.flatMap_right _).length_eq, nodes_eq, List.length_cons,
    length_nodesBelow]
  exact Nat.lt_succ_of_le (below.flatMap _).length_le

/-- What the search goes on to are children of the node, each at most once. -/
theorem visited_sublist (tree : SyntaxTree) : List.Sublist (visited tree) tree.children := by
  unfold visited
  split
  · exact List.filter_sublist
  · exact List.Sublist.refl _

/-- Each step takes a node off the weight of the search, which is why it ends. -/
theorem weight_lt_of_step {search next : Search} (stepped : search.step = some next) :
    next.weight < search.weight := by
  obtain ⟨tree, rest, pending, ⟨-, rfl⟩ | ⟨-, rfl⟩⟩ := step_cases stepped
  · have positive : 0 < tree.nodes.length := by
      rw [nodes_eq]
      exact Nat.succ_pos _
    simp only [weight, pending, List.flatMap_cons, List.length_append]
    omega
  · have fewer := length_flatMap_nodes_lt (visited_sublist tree)
    simp only [weight, pending, List.flatMap_cons, List.flatMap_append, List.length_append]
    omega

/-- The reach of a search is a least upper bound of the row it has met and of those still to be met.
-/
theorem reach_le_iff (search : Search) (bound : Nat) :
    search.reach ≤ bound ↔ search.last ≤ bound ∧
      ∀ tree ∈ search.pending, tree.kind ≠ .comment → tree.lastRow ≤ bound := by
  rw [reach, Nat.max_le, lastRowBelow_le_iff]
  simp [countsBelow_iff]

/-- What the search will have met does not change on the way. -/
theorem reach_of_step {search next : Search} (stepped : search.step = some next) :
    next.reach = search.reach := by
  apply eq_of_forall_ge_iff
  intro bound
  obtain ⟨tree, rest, pending, ⟨comment, rfl⟩ | ⟨other, rfl⟩⟩ := step_cases stepped
  · simp [reach_le_iff, pending, comment]
  · have below : (∀ child ∈ (visited tree).reverse, child.kind ≠ .comment → child.lastRow ≤ bound) ↔
        ∀ child ∈ tree.children, child.countsBelow tree.kind → child.lastRow ≤ bound := by
      simp only [List.mem_reverse, mem_visited_iff, countsBelow_iff]
      constructor
      · intro short child member counts
        exact short child ⟨member, counts.2⟩ counts.1
      · intro short child member kept
        exact short child member.1 ⟨kept, member.2⟩
    rw [reach_le_iff, reach_le_iff, pending, List.forall_mem_cons, List.forall_mem_append, below,
      imp_iff_right other, lastRow_le_iff, Nat.max_le, and_assoc, and_assoc]

/-- Visits one node after the other, and gives the last row met. -/
def run (search : Search) : Nat :=
  match _stepped : search.step with
  | none => search.last
  | some next => next.run
termination_by search.weight
decreasing_by exact weight_lt_of_step _stepped

/-- A search stops only when nothing is pending. -/
theorem step_eq_none_iff (search : Search) : search.step = none ↔ search.pending = [] := by
  unfold step
  split
  · rename_i done
    simp [done]
  · rename_i tree rest pending
    rw [pending]
    split <;> simp

/-- A search that runs to its end has met the reach it started with. -/
theorem run_eq_reach (search : Search) : search.run = search.reach := by
  fun_induction run search with
  | case1 search ended =>
      rw [step_eq_none_iff] at ended
      simp [reach, ended, lastRowBelow]
  | case2 search next stepped ih => rw [ih, reach_of_step stepped]

/-- The steps of a search come to an end, at which no node is pending. -/
theorem steps_run (search : Search) :
    Relation.ReflTransGen (fun search next => search.step = some next) search
      ⟨search.run, []⟩ := by
  fun_induction run search with
  | case1 search ended =>
      rw [step_eq_none_iff] at ended
      rw [← ended]
  | case2 search next stepped ih => exact .head stepped ih

/-- A search from a node ends at the last row of the node, and of a comment at its first. -/
theorem run_start (tree : SyntaxTree) :
    (start tree).run = if tree.kind = .comment then tree.row else tree.lastRow := by
  rw [run_eq_reach]
  apply eq_of_forall_ge_iff
  intro bound
  rw [reach_le_iff, start, List.forall_mem_singleton]
  split
  · rename_i comment
    simp [comment]
  · rename_i other
    rw [imp_iff_right other]
    exact ⟨fun both => both.2, fun last => ⟨(row_le_lastRow tree).trans last, last⟩⟩

end Search

/-- The search from a node ends with the greatest of the rows of the nodes that count. -/
theorem isGreatest_run_start (tree : SyntaxTree) :
    IsGreatest {row | ∃ found, tree.Counts found ∧ row = found.row} (Search.start tree).run := by
  rw [Search.run_start]
  split
  · rename_i comment
    refine ⟨⟨tree, .self tree, rfl⟩, ?_⟩
    rintro row ⟨found, counts, rfl⟩
    cases counts with
    | self => exact le_rfl
    | under uncommented => exact (uncommented comment).elim
  · rename_i other
    obtain ⟨found, counts, row⟩ := exists_counts_row_eq other
    refine ⟨⟨found, counts, row.symm⟩, ?_⟩
    rintro row ⟨found, counts, rfl⟩
    exact (row_le_lastRow found).trans counts.lastRow_le

end MarkerReport.SyntaxTree
