import Mathlib.Data.List.Lex
import MarkerReport.Scope.Tree

/-! # Nodes of a syntax tree

A node of a syntax tree has an address: the way to it from the root, each step of which is the
number of a child, counted from zero. The nodes above a node have the prefixes of its address.
Addresses in lexicographic order list the nodes in the order of the document, a node before those
below it.

`MarkerReport.SyntaxTree.nodes` lists the nodes in this order, and the intervals of a tree are those
of its nodes, in the order of the list (`MarkerReport.SyntaxTree.intervals_eq_filterMap`).
-/

namespace MarkerReport.SyntaxTree

/-- The node at an address, if there is one. -/
def at? (tree : SyntaxTree) : (address : List Nat) → Option SyntaxTree
  | [] => some tree
  | index :: rest => tree.children[index]?.bind fun child => child.at? rest

mutual

/-- The nodes of a tree with their addresses, in the order of the document. -/
def nodes : SyntaxTree → List (List Nat × SyntaxTree)
  | node kind row column name children =>
      ([], node kind row column name children) :: nodesBelow 0 children

/-- The nodes of several trees in a row, the first of which is the child with the given number. -/
def nodesBelow (index : Nat) : List SyntaxTree → List (List Nat × SyntaxTree)
  | [] => []
  | tree :: later =>
      (nodes tree).map (fun located => (index :: located.1, located.2)) ++
        nodesBelow (index + 1) later

end

mutual

/-- What holds of a tree whenever it holds of its children holds of all trees. -/
@[elab_as_elim]
theorem byChildren {motive : SyntaxTree → Prop}
    (node : ∀ tree, (∀ child ∈ tree.children, motive child) → motive tree) :
    ∀ tree : SyntaxTree, motive tree
  | .node _ _ _ _ children => node _ (eachBelow node children)

/-- Induction over a tree reaches every tree of a list. -/
theorem eachBelow {motive : SyntaxTree → Prop}
    (node : ∀ tree, (∀ child ∈ tree.children, motive child) → motive tree) :
    ∀ trees : List SyntaxTree, ∀ child ∈ trees, motive child
  | [] => List.forall_mem_nil motive
  | tree :: later => List.forall_mem_cons.mpr ⟨byChildren node tree, eachBelow node later⟩

end

/-- The nodes of a tree are itself and those below it. -/
theorem nodes_eq (tree : SyntaxTree) : tree.nodes = ([], tree) :: nodesBelow 0 tree.children := by
  cases tree
  rw [nodes, children]

/-- A node below a list of trees is one of some tree of the list, with the place of that tree before
its address. -/
theorem mem_nodesBelow_iff (index : Nat) (trees : List SyntaxTree) (address : List Nat)
    (found : SyntaxTree) :
    (address, found) ∈ nodesBelow index trees ↔
      ∃ offset rest child, address = (index + offset) :: rest ∧ trees[offset]? = some child ∧
        (rest, found) ∈ child.nodes := by
  induction trees generalizing index with
  | nil => simp [nodesBelow]
  | cons tree later ih =>
      rw [nodesBelow, List.mem_append, ih]
      constructor
      · rintro (here | ⟨offset, rest, child, rfl, listed, member⟩)
        · obtain ⟨⟨rest, node⟩, member, same⟩ := List.mem_map.mp here
          obtain ⟨rfl, rfl⟩ := Prod.mk.inj same
          exact ⟨0, rest, tree, rfl, rfl, member⟩
        · exact ⟨offset + 1, rest, child, by rw [Nat.add_assoc, Nat.add_comm 1], listed, member⟩
      · rintro ⟨offset, rest, child, rfl, listed, member⟩
        cases offset with
        | zero =>
            obtain rfl := Option.some.inj listed
            exact .inl (List.mem_map.mpr ⟨(rest, found), member, rfl⟩)
        | succ offset =>
            exact .inr ⟨offset, rest, child, by rw [Nat.add_assoc, Nat.add_comm 1], listed, member⟩

/-- The nodes listed are those with an address. -/
theorem mem_nodes_iff (tree : SyntaxTree) (address : List Nat) (found : SyntaxTree) :
    (address, found) ∈ tree.nodes ↔ tree.at? address = some found := by
  induction tree using byChildren generalizing address with
  | node tree ih =>
      rw [nodes_eq, List.mem_cons, mem_nodesBelow_iff]
      cases address with
      | nil => simp [at?, eq_comm]
      | cons index rest =>
          rw [at?, Option.bind_eq_some_iff]
          constructor
          · rintro (absurd | ⟨offset, behind, child, same, listed, member⟩)
            · simp at absurd
            · obtain ⟨rfl, rfl⟩ := List.cons.inj same
              rw [Nat.zero_add]
              exact ⟨child, listed, (ih child (List.mem_of_getElem? listed) _).mp member⟩
          · rintro ⟨child, listed, located⟩
            refine .inr ⟨index, rest, child, by rw [Nat.zero_add], listed, ?_⟩
            exact (ih child (List.mem_of_getElem? listed) _).mpr located

/-- The nodes below a list of trees come in the order of their addresses, if those of each tree do.
-/
theorem pairwise_nodesBelow {trees : List SyntaxTree}
    (each : ∀ tree ∈ trees, tree.nodes.Pairwise fun first second => first.1 < second.1)
    (index : Nat) :
    (nodesBelow index trees).Pairwise fun first second => first.1 < second.1 := by
  induction trees generalizing index with
  | nil => exact .nil
  | cons tree later ih =>
      rw [nodesBelow, List.pairwise_append]
      refine ⟨?_, ih (fun other member => each other (List.mem_cons_of_mem _ member)) _, ?_⟩
      · rw [List.pairwise_map]
        refine (each tree List.mem_cons_self).imp fun before => ?_
        exact List.cons_lt_cons_iff.mpr (.inr ⟨rfl, before⟩)
      · intro first here second there
        obtain ⟨located, -, rfl⟩ := List.mem_map.mp here
        obtain ⟨offset, rest, child, same, -, -⟩ :=
          (mem_nodesBelow_iff (index + 1) later second.1 second.2).mp there
        rw [same]
        exact List.cons_lt_cons_iff.mpr (.inl (by omega))

/-- The list is in the order of the addresses. -/
theorem pairwise_nodes (tree : SyntaxTree) :
    tree.nodes.Pairwise fun first second => first.1 < second.1 := by
  induction tree using byChildren with
  | node tree ih =>
      rw [nodes_eq]
      refine .cons ?_ (pairwise_nodesBelow ih 0)
      rintro ⟨address, found⟩ member
      obtain ⟨offset, rest, child, rfl, -, -⟩ := (mem_nodesBelow_iff 0 _ _ _).mp member
      exact List.nil_lt_cons _ _

/-- The intervals below a list of trees are those of its nodes, if this holds for each tree. -/
theorem intervalsBelow_eq_filterMap {trees : List SyntaxTree}
    (each : ∀ tree ∈ trees, tree.intervals = tree.nodes.filterMap fun node => node.2.interval?)
    (index : Nat) :
    intervalsBelow trees = (nodesBelow index trees).filterMap fun node => node.2.interval? := by
  induction trees generalizing index with
  | nil => rfl
  | cons tree later ih =>
      rw [intervalsBelow, nodesBelow, List.filterMap_append, List.filterMap_map,
        each tree List.mem_cons_self,
        ih (fun other member => each other (List.mem_cons_of_mem _ member)) (index + 1)]
      rfl

/-- The intervals of a tree are those of its nodes, in the order of the nodes. -/
theorem intervals_eq_filterMap (tree : SyntaxTree) :
    tree.intervals = tree.nodes.filterMap fun node => node.2.interval? := by
  induction tree using byChildren with
  | node tree ih =>
      have split : tree.intervals = tree.interval?.toList ++ intervalsBelow tree.children := by
        cases tree
        rw [intervals, children]
      rw [split, nodes_eq, intervalsBelow_eq_filterMap ih 0, List.filterMap_cons]
      cases tree.interval? <;> rfl

end MarkerReport.SyntaxTree
