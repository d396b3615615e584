import Mathlib.Data.List.Forall2
import MarkerReport.Proofs.Scope.Nesting

/-! # Outdated statements

A syntax tree with a statement of the older version of the language is rejected, wherever in it the
statement stands. Of several such statements one is reported: the first in an order of visits in
which a node comes before those below it, and the last child of a node before the others. Addresses
tell this order, as the lexicographic one in which greater numbers come first.

The statement can be found with a stack of nodes. Each step takes the node on top and, if that one
is up to date, puts those below it in its place. What the nodes on the stack would report, the top
one first, never changes (`MarkerReport.SyntaxTree.searchStack?_eq`), so the search finds what the
tree reports. A tree that reports nothing gives the intervals of its definitions, in the order of
the document (`MarkerReport.SyntaxTree.definitions_rejects_outdated`).
-/

namespace MarkerReport.SyntaxTree

/-- The node at the address is a statement of the older version of the language. -/
def OutdatedAt (tree : SyntaxTree) (address : List Nat) (statement : SyntaxTree) : Prop :=
  tree.at? address = some statement ∧
    (statement.kind = .printStatement ∨ statement.kind = .execStatement)

/-- The order of visits: a node comes before those below it, and of two children of a node the later
one, with all that is below it, comes before the other. -/
def VisitedBefore (first second : List Nat) : Prop := List.Lex (· > ·) first second

/-- The node at the address is outdated, and comes before all others that are. -/
structure IsReported (tree : SyntaxTree) (address : List Nat) (statement : SyntaxTree) : Prop where
  outdated : tree.OutdatedAt address statement
  first : ∀ other later, tree.OutdatedAt other later → other ≠ address →
    VisitedBefore address other

/-- What the grammar calls an outdated statement. -/
inductive NamesOutdated : NodeKind → String → Prop
  | print : NamesOutdated .printStatement "print_statement"
  | exec : NamesOutdated .execStatement "exec_statement"

/-- The node at the address is a definition with a name. -/
def NamedDefinitionAt (tree : SyntaxTree) (address : List Nat) : Prop :=
  ∃ definition, tree.at? address = some definition ∧ definition.isDefinition ∧
    ∃ name, definition.name = some name

theorem isOutdated_iff (tree : SyntaxTree) :
    tree.isOutdated ↔ tree.kind = .printStatement ∨ tree.kind = .execStatement := by
  rw [isOutdated, Bool.or_eq_true, beq_iff_eq, beq_iff_eq]

/-- The last tree of a list that has an outdated statement is the one reported. -/
theorem outdatedBelow?_eq (trees : List SyntaxTree) :
    outdatedBelow? trees = trees.reverse.findSome? outdated? := by
  induction trees with
  | nil => rfl
  | cons tree later ih =>
      rw [outdatedBelow?, ih, List.reverse_cons, List.findSome?_append, List.findSome?_singleton]
      cases later.reverse.findSome? outdated? <;> rfl

/-- A tree reports itself if it is outdated, else the last child that has something to report. -/
theorem outdated?_eq (tree : SyntaxTree) :
    tree.outdated? =
      if tree.isOutdated then some tree else tree.children.reverse.findSome? outdated? := by
  rw [← outdatedBelow?_eq]
  cases tree
  rw [outdated?, children]

theorem outdatedAt_nil_iff (tree statement : SyntaxTree) :
    tree.OutdatedAt [] statement ↔ statement = tree ∧ tree.isOutdated := by
  rw [OutdatedAt, at?, Option.some.injEq, isOutdated_iff]
  constructor
  · intro outdated
    obtain ⟨rfl, older⟩ := outdated
    exact ⟨rfl, older⟩
  · intro outdated
    obtain ⟨rfl, older⟩ := outdated
    exact ⟨rfl, older⟩

theorem outdatedAt_cons_iff (tree statement : SyntaxTree) (index : Nat) (rest : List Nat) :
    tree.OutdatedAt (index :: rest) statement ↔
      ∃ child, tree.children[index]? = some child ∧ child.OutdatedAt rest statement := by
  simp only [OutdatedAt, at?, Option.bind_eq_some_iff]
  constructor
  · intro outdated
    obtain ⟨⟨child, listed, located⟩, older⟩ := outdated
    exact ⟨child, listed, located, older⟩
  · intro outdated
    obtain ⟨child, listed, located, older⟩ := outdated
    exact ⟨⟨child, listed, located⟩, older⟩

/-- A tree that reports nothing holds no outdated statement, at any depth. -/
theorem not_outdatedAt_of_outdated?_eq_none {tree : SyntaxTree} (current : tree.outdated? = none)
    (address : List Nat) (statement : SyntaxTree) : ¬ tree.OutdatedAt address statement := by
  induction address generalizing tree with
  | nil =>
      intro outdated
      rw [outdated?_eq, if_pos ((outdatedAt_nil_iff tree statement).mp outdated).2] at current
      exact Option.some_ne_none _ current
  | cons index rest ih =>
      intro outdated
      obtain ⟨child, listed, below⟩ := (outdatedAt_cons_iff tree statement index rest).mp outdated
      rw [outdated?_eq] at current
      split at current
      · exact Option.some_ne_none _ current
      · have each := List.findSome?_eq_none_iff.mp current child
          (List.mem_reverse.mpr (List.mem_of_getElem? listed))
        exact ih each below

/-- What a child reports the node reports, if it is up to date itself and the later children report
nothing. -/
theorem IsReported.above {tree child statement : SyntaxTree} {earlier later : List SyntaxTree}
    {rest : List Nat} (reported : child.IsReported rest statement) (current : ¬ tree.isOutdated)
    (split : tree.children = earlier ++ child :: later)
    (silent : ∀ other ∈ later, other.outdated? = none) :
    tree.IsReported (earlier.length :: rest) statement := by
  have listed : tree.children[earlier.length]? = some child := by
    rw [split, List.getElem?_append_right le_rfl, Nat.sub_self]
    rfl
  constructor
  · exact (outdatedAt_cons_iff _ _ _ _).mpr ⟨child, listed, reported.outdated⟩
  · intro other found outdated apart
    cases other with
    | nil => exact (current ((outdatedAt_nil_iff tree found).mp outdated).2).elim
    | cons index place =>
        obtain ⟨sibling, among, below⟩ := (outdatedAt_cons_iff _ _ _ _).mp outdated
        rcases Nat.lt_trichotomy index earlier.length with before | rfl | behind
        · exact .rel before
        · obtain rfl := Option.some.inj (listed.symm.trans among)
          apply List.Lex.cons
          apply reported.first place found below
          intro same
          exact apart (by rw [same])
        · -- A child behind this one reports nothing, so nothing below it is outdated.
          rw [split, List.getElem?_append_right behind.le, List.getElem?_cons,
            if_neg (Nat.sub_ne_zero_of_lt behind)] at among
          have nothing := silent sibling (List.mem_of_getElem? among)
          exact (not_outdatedAt_of_outdated?_eq_none nothing place found below).elim

/-- The statement reported stands at an address that no other outdated one is visited before. -/
theorem exists_isReported_of_outdated? {tree statement : SyntaxTree}
    (found : tree.outdated? = some statement) :
    ∃ address, tree.IsReported address statement := by
  induction tree using byChildren with
  | node tree ih =>
      rw [outdated?_eq] at found
      split at found
      · rename_i older
        obtain rfl := Option.some.inj found
        refine ⟨[], (outdatedAt_nil_iff tree tree).mpr ⟨rfl, older⟩, ?_⟩
        intro other later outdated apart
        cases other with
        | nil => exact (apart rfl).elim
        | cons index rest => exact .nil
      · rename_i current
        obtain ⟨passed, child, waiting, order, reports, silent⟩ :=
          List.findSome?_eq_some_iff.mp found
        have split : tree.children = waiting.reverse ++ child :: passed.reverse := by
          rw [← List.reverse_reverse tree.children, order, List.reverse_append, List.reverse_cons,
            List.append_assoc, List.singleton_append]
        have member : child ∈ tree.children := by
          rw [split]
          exact List.mem_append_right _ List.mem_cons_self
        obtain ⟨rest, reported⟩ := ih child member reports
        refine ⟨_, reported.above current split ?_⟩
        intro other listed
        exact silent other (List.mem_reverse.mp listed)

/-- At most one statement can be reported. -/
theorem IsReported.unique {tree statement other : SyntaxTree} {address place : List Nat}
    (reported : tree.IsReported address statement) (also : tree.IsReported place other) :
    statement = other := by
  by_cases same : address = place
  · subst same
    exact Option.some.inj (reported.outdated.1.symm.trans also.outdated.1)
  · have forth := reported.first place other also.outdated (Ne.symm same)
    have back := also.first address statement reported.outdated same
    exact (Std.Asymm.asymm (r := List.Lex (· > ·)) _ _ forth back).elim

/-- A tree reports just the outdated statement that is visited first. -/
theorem outdated?_eq_some_iff (tree statement : SyntaxTree) :
    tree.outdated? = some statement ↔ ∃ address, tree.IsReported address statement := by
  constructor
  · exact exists_isReported_of_outdated?
  · intro reports
    obtain ⟨address, reported⟩ := reports
    cases found : tree.outdated? with
    | none =>
        have nothing := not_outdatedAt_of_outdated?_eq_none found address statement
        exact (nothing reported.outdated).elim
    | some other =>
        obtain ⟨place, also⟩ := exists_isReported_of_outdated? found
        rw [also.unique reported]

/-- A tree reports nothing exactly when it has no outdated statement. -/
theorem outdated?_eq_none_iff (tree : SyntaxTree) :
    tree.outdated? = none ↔ ∀ address statement, ¬ tree.OutdatedAt address statement := by
  constructor
  · exact not_outdatedAt_of_outdated?_eq_none
  · intro current
    rw [Option.eq_none_iff_forall_ne_some]
    intro statement found
    obtain ⟨address, reported⟩ := exists_isReported_of_outdated? found
    exact current address statement reported.outdated

/-- Visits the nodes on a stack, the one on top first, up to an outdated one. Those below a node
take its place, the last one on top. -/
def searchStack? : List SyntaxTree → Option SyntaxTree
  | [] => none
  | tree :: rest =>
      if tree.isOutdated then some tree else searchStack? (tree.children.reverse ++ rest)
termination_by stack => (stack.flatMap (·.nodes)).length
decreasing_by
  have fewer := Search.length_flatMap_nodes_lt (List.Sublist.refl tree.children)
  rw [List.flatMap_append, List.flatMap_cons, List.length_append, List.length_append]
  omega

/-- The search finds what the topmost node that reports a statement reports. -/
theorem searchStack?_eq (stack : List SyntaxTree) :
    searchStack? stack = stack.findSome? outdated? := by
  fun_induction searchStack? stack with
  | case1 => rfl
  | case2 tree rest older => rw [List.findSome?_cons, outdated?_eq, if_pos older]
  | case3 tree rest current ih =>
      rw [ih, List.findSome?_append, List.findSome?_cons, outdated?_eq, if_neg current]
      cases tree.children.reverse.findSome? outdated? <;> rfl

/-- A tree is rejected exactly with the error of the statement it reports. -/
theorem definitions_eq_error_iff (tree : SyntaxTree) (error : Error) :
    tree.definitions = .error error ↔
      ∃ statement, tree.outdated? = some statement ∧ outdatedError statement = error := by
  unfold definitions
  split
  · rename_i statement found
    simp [found]
  · rename_i current
    simp [current]

theorem namesOutdated_iff {kind : NodeKind}
    (older : kind = .printStatement ∨ kind = .execStatement) (name : String) :
    NamesOutdated kind name ↔ kind.grammarName = name := by
  constructor
  · intro names
    cases names with
    | print => rfl
    | exec => rfl
  · intro same
    rw [← same]
    rcases older with rfl | rfl
    · exact .print
    · exact .exec

/-- The intervals of nodes of a tree belong to those of the nodes that are definitions with
names. -/
theorem forall₂_filterMap_interval? {tree : SyntaxTree} {located : List (List Nat × SyntaxTree)}
    (within : ∀ node ∈ located, tree.at? node.1 = some node.2) :
    List.Forall₂ tree.IntervalAt ((located.filter (·.2.interval?.isSome)).map (·.1))
      (located.filterMap (·.2.interval?)) := by
  induction located with
  | nil => exact .nil
  | cons node later ih =>
      have rest := ih fun other member => within other (List.mem_cons_of_mem node member)
      cases takes : node.2.interval? with
      | none =>
          rw [List.filterMap_cons, takes, List.filter_cons_of_neg (by simp [takes])]
          exact rest
      | some interval =>
          rw [List.filterMap_cons, takes, List.filter_cons_of_pos (by simp [takes]), List.map_cons]
          exact .cons ((intervalAt_iff _ _ _).mpr ⟨_, within node List.mem_cons_self, takes⟩) rest

/-- A node has an interval exactly when it is a definition with a name. -/
theorem isSome_interval?_iff (tree : SyntaxTree) :
    tree.interval?.isSome ↔ tree.isDefinition ∧ ∃ name, tree.name = some name := by
  rw [Option.isSome_iff_exists]
  constructor
  · intro takes
    obtain ⟨interval, takes⟩ := takes
    obtain ⟨definition, named, -⟩ := (interval?_eq_some_iff tree interval).mp takes
    exact ⟨definition, interval.name, named⟩
  · intro named
    obtain ⟨definition, name, named⟩ := named
    exact ⟨⟨_, _, name⟩, (interval?_eq_some_iff tree _).mpr ⟨definition, named, rfl, rfl⟩⟩

/-- The intervals of a tree are those of its definitions with names, one for each of them, in the
order of the document. -/
theorem exists_addresses_intervals (tree : SyntaxTree) :
    ∃ addresses : List (List Nat), addresses.Pairwise (· < ·) ∧
      (∀ address, address ∈ addresses ↔ tree.NamedDefinitionAt address) ∧
      List.Forall₂ tree.IntervalAt addresses tree.intervals := by
  refine ⟨(tree.nodes.filter (·.2.interval?.isSome)).map (·.1), ?_, ?_, ?_⟩
  · rw [List.pairwise_map]
    exact tree.pairwise_nodes.filter _
  · intro address
    simp only [List.mem_map, List.mem_filter, isSome_interval?_iff, Prod.exists, mem_nodes_iff,
      exists_and_right, exists_eq_right, NamedDefinitionAt]
  · rw [intervals_eq_filterMap]
    apply forall₂_filterMap_interval?
    intro node member
    exact (mem_nodes_iff tree node.1 node.2).mp member

/-- A tree is rejected just if it holds an outdated statement, at any depth. The complaint names the
kind and the place of the statement that comes first in the order of visits, which is the one that a
search with a stack finds. Any other tree gives one interval for each of its definitions with names,
in the order of the document. -/
theorem definitions_rejects_outdated (tree : SyntaxTree) :
    ((∃ error, tree.definitions = .error error) ↔
      ∃ address statement, tree.OutdatedAt address statement) ∧
    (∀ error, tree.definitions = .error error ↔
      ∃ address statement name, tree.IsReported address statement ∧
        NamesOutdated statement.kind name ∧
        error = .parse "python" (name ++ " is not valid Python 3") none
          (some ⟨statement.row + 1, statement.column + 1⟩)) ∧
    (∀ statement, searchStack? [tree] = some statement ↔
      ∃ address, tree.IsReported address statement) ∧
    ((∀ address statement, ¬ tree.OutdatedAt address statement) →
      ∃ intervals, tree.definitions = .ok intervals ∧
        ∃ addresses : List (List Nat), addresses.Pairwise (· < ·) ∧
          (∀ address, address ∈ addresses ↔ tree.NamedDefinitionAt address) ∧
          List.Forall₂ tree.IntervalAt addresses intervals) ∧
    ∀ source, Python.parse? source = some tree → Python.definitions source = tree.definitions := by
  refine ⟨?_, ?_, ?_, ?_, ?_⟩
  · constructor
    · intro rejected
      obtain ⟨error, rejected⟩ := rejected
      obtain ⟨statement, found, -⟩ := (definitions_eq_error_iff tree error).mp rejected
      obtain ⟨address, reported⟩ := exists_isReported_of_outdated? found
      exact ⟨address, statement, reported.outdated⟩
    · intro holds
      obtain ⟨address, statement, outdated⟩ := holds
      cases found : tree.outdated? with
      | none => exact ((outdated?_eq_none_iff tree).mp found address statement outdated).elim
      | some first => exact ⟨_, (definitions_eq_error_iff tree _).mpr ⟨first, found, rfl⟩⟩
  · intro error
    simp only [definitions_eq_error_iff, outdated?_eq_some_iff]
    constructor
    · intro rejected
      obtain ⟨statement, ⟨address, reported⟩, rfl⟩ := rejected
      have names := (namesOutdated_iff reported.outdated.2 _).mpr rfl
      exact ⟨address, statement, _, reported, names, rfl⟩
    · intro reports
      obtain ⟨address, statement, name, reported, names, rfl⟩ := reports
      obtain rfl := (namesOutdated_iff reported.outdated.2 name).mp names
      exact ⟨statement, ⟨address, reported⟩, rfl⟩
  · intro statement
    rw [searchStack?_eq, List.findSome?_singleton, outdated?_eq_some_iff]
  · intro current
    have silent := (outdated?_eq_none_iff tree).mpr current
    exact ⟨tree.intervals, definitions_of_current silent, exists_addresses_intervals tree⟩
  · intro source parsed
    rw [Python.definitions, parsed]

/-- Three outdated statements. Two of them are in the body of a function, which comes behind the
third. -/
def outdatedThrice : SyntaxTree :=
  .node .module 0 0 none
    [.node .printStatement 0 0 none [],
      .node .functionDefinition 1 0 (some "f")
        [.node .block 2 4 none
          [.node .printStatement 2 4 none [], .node .execStatement 3 4 none []]],
      .node .statement 4 0 none []]

/-- A class with a method and a definition without a name. -/
def upToDate : SyntaxTree :=
  .node .module 0 0 none
    [.node .classDefinition 0 0 (some "A")
      [.node .functionDefinition 1 2 none [], .node .functionDefinition 2 2 (some "b") []]]

/-- Of the three statements the last one is reported. A tree without such statements has an interval
for each definition with a name. The same holds of the tree of a source. -/
theorem definitions_rejects_outdated_thrice :
    searchStack? [outdatedThrice] = some (.node .execStatement 3 4 none []) ∧
    (∃ address, outdatedThrice.IsReported address (.node .execStatement 3 4 none [])) ∧
    outdatedThrice.definitions =
      .error (.parse "python" "exec_statement is not valid Python 3" none (some ⟨4, 5⟩)) ∧
    (∀ address statement, ¬ upToDate.OutdatedAt address statement) ∧
    upToDate.definitions = .ok [⟨1, 3, "A"⟩, ⟨3, 3, "b"⟩] ∧
    (∃ addresses : List (List Nat), addresses.Pairwise (· < ·) ∧
      (∀ address, address ∈ addresses ↔ upToDate.NamedDefinitionAt address) ∧
      List.Forall₂ upToDate.IntervalAt addresses [⟨1, 3, "A"⟩, ⟨3, 3, "b"⟩]) ∧
    ∃ tree, Python.parse? "def f():\n  print 1\n".toList = some tree ∧
      Python.definitions "def f():\n  print 1\n".toList = tree.definitions := by
  obtain ⟨-, complaint, search, -, -⟩ := definitions_rejects_outdated outdatedThrice
  have found : searchStack? [outdatedThrice] = some (.node .execStatement 3 4 none []) := by
    rw [searchStack?_eq]
    rfl
  obtain ⟨address, reported⟩ := (search _).mp found
  have current (address : List Nat) (statement : SyntaxTree) :
      ¬ upToDate.OutdatedAt address statement :=
    not_outdatedAt_of_outdated?_eq_none rfl address statement
  have listed : upToDate.definitions = .ok [⟨1, 3, "A"⟩, ⟨3, 3, "b"⟩] := rfl
  obtain ⟨intervals, same, addresses⟩ :=
    (definitions_rejects_outdated upToDate).2.2.2.1 current
  obtain rfl := Except.ok.inj (same.symm.trans listed)
  have accepted : (Python.parse? "def f():\n  print 1\n".toList).isSome := by decide +kernel
  obtain ⟨tree, parsed⟩ := Option.isSome_iff_exists.mp accepted
  have rejected := (complaint _).mpr ⟨address, _, _, reported, .exec, rfl⟩
  exact ⟨found, ⟨address, reported⟩, rejected, current, listed, addresses, tree, parsed,
    (definitions_rejects_outdated tree).2.2.2.2 _ parsed⟩

end MarkerReport.SyntaxTree
