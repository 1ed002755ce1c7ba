import Mathlib.Logic.Relation
import Reckoner.Tree.ParseTree

/-!
Contract: a parse tree is the pre-order of a nested tree, and nothing of the nesting is lost.

The nodes of a parse tree stand in a row and know their parents by number.  Numbers are handed out in
pre-order, so a parent always comes before its children, and a node that is added later never hangs
from a subtree that is complete.  Reading from the root on, the children of each node in their order
give back the nested tree whose lists have been spliced into their parents.

Owns: nested trees, the splicing of lists, the numbers and parents of flattened nodes, and the
reading of a parse tree.

Does not own: the labels.
-/

namespace Reckoner

/-! ### Nested trees -/

/-- A tree in which every node has a label and subtrees in order. -/
inductive RoseTree (α : Type) where
  | node (label : α) (subtrees : List (RoseTree α))

namespace RoseTree

variable {α β : Type}

def root : RoseTree α → α
  | .node label _ => label

mutual

/-- The labels of a tree, each before those of its subtrees. -/
def preorder : RoseTree α → List α
  | .node label subtrees => label :: preorderAll subtrees

def preorderAll : List (RoseTree α) → List α
  | [] => []
  | tree :: rest => tree.preorder ++ preorderAll rest

end

mutual

def map (relabel : α → β) : RoseTree α → RoseTree β
  | .node label subtrees => .node (relabel label) (mapAll relabel subtrees)

def mapAll (relabel : α → β) : List (RoseTree α) → List (RoseTree β)
  | [] => []
  | tree :: rest => tree.map relabel :: mapAll relabel rest

end

private theorem preorderAll_append (first second : List (RoseTree α)) :
    preorderAll (first ++ second) = preorderAll first ++ preorderAll second := by
  induction first with
  | nil => rfl
  | cons tree rest inductionHypothesis =>
      rw [List.cons_append, preorderAll, preorderAll, inductionHypothesis, List.append_assoc]

private theorem mapAll_append (relabel : α → β) (first second : List (RoseTree α)) :
    mapAll relabel (first ++ second) = mapAll relabel first ++ mapAll relabel second := by
  induction first with
  | nil => rfl
  | cons tree rest inductionHypothesis =>
      rw [List.cons_append, mapAll, mapAll, inductionHypothesis, List.cons_append]

end RoseTree

mutual

/-- The trees that an item stands for.  The members of a list take its place. -/
def TreeItem.spliced : TreeItem → List (RoseTree String)
  | .node label children => [.node label (TreeItem.allSpliced children)]
  | .list items => TreeItem.allSpliced items
  | .leaf label => [.node label []]

def TreeItem.allSpliced : List TreeItem → List (RoseTree String)
  | [] => []
  | item :: rest => item.spliced ++ TreeItem.allSpliced rest

end

/-! ### Numbers and parents -/

namespace ParseTree

mutual

/-- Nodes are numbered in the order in which they stand. -/
theorem flatten_ids (parent next : Nat) (item : TreeItem) :
    (flatten parent next item).map TreeNode.id =
      List.range' next (flatten parent next item).length := by
  cases item with
  | node label children =>
      rw [flatten, List.map_cons, flattenAll_ids, List.length_cons, List.range'_succ]
  | list items => rw [flatten, flattenAll_ids]
  | leaf label => rfl

private theorem flattenAll_ids (parent next : Nat) (items : List TreeItem) :
    (flattenAll parent next items).map TreeNode.id =
      List.range' next (flattenAll parent next items).length := by
  cases items with
  | nil => rfl
  | cons item rest =>
      rw [flattenAll, List.map_append, flatten_ids, flattenAll_ids, List.length_append,
        List.range'_append_1]

end

mutual

/-- The parent of a node has a smaller number. -/
theorem parent_of_mem_flatten
    {parent next : Nat}
    (before : parent < next)
    (item : TreeItem) :
    ∀ node ∈ flatten parent next item, ∃ above, node.parent = some above ∧ above < node.id := by
  cases item with
  | node label children =>
      rw [flatten, List.forall_mem_cons]
      exact ⟨⟨parent, rfl, before⟩, parent_of_mem_flattenAll (Nat.lt_succ_self next) children⟩
  | list items =>
      rw [flatten]
      exact parent_of_mem_flattenAll before items
  | leaf label =>
      rw [flatten, List.forall_mem_singleton]
      exact ⟨parent, rfl, before⟩

private theorem parent_of_mem_flattenAll
    {parent next : Nat}
    (before : parent < next)
    (items : List TreeItem) :
    ∀ node ∈ flattenAll parent next items, ∃ above, node.parent = some above ∧ above < node.id := by
  cases items with
  | nil => simp [flattenAll]
  | cons item rest =>
      rw [flattenAll, List.forall_mem_append]
      exact ⟨parent_of_mem_flatten before item,
        parent_of_mem_flattenAll (Nat.lt_add_right _ before) rest⟩

end

end ParseTree

/-! ### Trees of nodes -/

namespace RoseTree

mutual

/-- The root of a tree hangs from a parent, and the subtrees hang from the root. -/
def Hangs (parent : Nat) : RoseTree TreeNode → Prop
  | .node top subtrees => top.parent = some parent ∧ AllHang top.id subtrees

def AllHang (parent : Nat) : List (RoseTree TreeNode) → Prop
  | [] => True
  | tree :: rest => tree.Hangs parent ∧ AllHang parent rest

end

mutual

/-- A tree can be read off a parse tree: at each node, the roots of the subtrees are the children
of the node, in their order. -/
def ReadOff (tree : ParseTree) : RoseTree TreeNode → Prop
  | .node top subtrees => subtrees.map root = tree.children top.id ∧ AllReadOff tree subtrees

def AllReadOff (tree : ParseTree) : List (RoseTree TreeNode) → Prop
  | [] => True
  | subtree :: rest => subtree.ReadOff tree ∧ AllReadOff tree rest

end

theorem AllHang.append
    {parent : Nat}
    {first second : List (RoseTree TreeNode)}
    (firstHang : AllHang parent first)
    (secondHang : AllHang parent second) :
    AllHang parent (first ++ second) := by
  induction first with
  | nil => exact secondHang
  | cons tree rest inductionHypothesis => exact ⟨firstHang.1, inductionHypothesis firstHang.2⟩

end RoseTree

namespace ParseTree

mutual

/-- The flattened nodes of an item are the pre-order of trees that hang from the parent and have the
labels of the item. -/
theorem exists_trees_of_flatten (parent next : Nat) (item : TreeItem) :
    ∃ trees, RoseTree.preorderAll trees = flatten parent next item ∧
      RoseTree.mapAll TreeNode.label trees = item.spliced ∧ RoseTree.AllHang parent trees := by
  cases item with
  | node label children =>
      obtain ⟨subtrees, nodes, labels, hang⟩ := exists_trees_of_flattenAll next (next + 1) children
      refine ⟨[.node ⟨next, label, some parent⟩ subtrees], ?_, ?_, ⟨rfl, hang⟩, trivial⟩
      · simp only [RoseTree.preorderAll, RoseTree.preorder, flatten, nodes, List.append_nil]
      · simp only [RoseTree.mapAll, RoseTree.map, TreeItem.spliced, labels]
  | list items => exact exists_trees_of_flattenAll parent next items
  | leaf label => exact ⟨[.node ⟨next, label, some parent⟩ []], rfl, rfl, ⟨rfl, trivial⟩, trivial⟩

private theorem exists_trees_of_flattenAll (parent next : Nat) (items : List TreeItem) :
    ∃ trees, RoseTree.preorderAll trees = flattenAll parent next items ∧
      RoseTree.mapAll TreeNode.label trees = TreeItem.allSpliced items ∧
      RoseTree.AllHang parent trees := by
  cases items with
  | nil => exact ⟨[], rfl, rfl, trivial⟩
  | cons item rest =>
      obtain ⟨first, firstNodes, firstLabels, firstHang⟩ :=
        exists_trees_of_flatten parent next item
      obtain ⟨others, otherNodes, otherLabels, othersHang⟩ :=
        exists_trees_of_flattenAll parent (next + (flatten parent next item).length) rest
      refine ⟨first ++ others, ?_, ?_, firstHang.append othersHang⟩
      · rw [RoseTree.preorderAll_append, firstNodes, otherNodes, flattenAll]
      · rw [RoseTree.mapAll_append, firstLabels, otherLabels, TreeItem.allSpliced]

end

/-! ### Children -/

private theorem children_append (first second : List TreeNode) (id : Nat) :
    (mk (first ++ second)).children id = (mk first).children id ++ (mk second).children id :=
  List.filter_append first second

private theorem children_cons_of_eq
    {node : TreeNode}
    {id : Nat}
    (hangs : node.parent = some id)
    (rest : List TreeNode) :
    (mk (node :: rest)).children id = node :: (mk rest).children id :=
  List.filter_cons_of_pos (by simpa using hangs)

private theorem children_cons_of_ne
    {node : TreeNode}
    {id : Nat}
    (elsewhere : node.parent ≠ some id)
    (rest : List TreeNode) :
    (mk (node :: rest)).children id = (mk rest).children id :=
  List.filter_cons_of_neg (by simpa using elsewhere)

end ParseTree

namespace RoseTree

def idsOfAll (trees : List (RoseTree TreeNode)) : List Nat :=
  (preorderAll trees).map TreeNode.id

private theorem idsOfAll_cons (top : TreeNode) (subtrees rest : List (RoseTree TreeNode)) :
    idsOfAll (.node top subtrees :: rest) = top.id :: (idsOfAll subtrees ++ idsOfAll rest) := by
  simp [idsOfAll, preorderAll, preorder]

private theorem notMem_idsOfAll_cons
    (id : Nat)
    (top : TreeNode)
    (subtrees rest : List (RoseTree TreeNode)) :
    id ∉ idsOfAll (.node top subtrees :: rest) ↔
      id ≠ top.id ∧ id ∉ idsOfAll subtrees ∧ id ∉ idsOfAll rest := by
  rw [idsOfAll_cons, List.mem_cons, List.mem_append, not_or, not_or]

private theorem children_preorderAll_cons
    (top : TreeNode)
    (subtrees rest : List (RoseTree TreeNode))
    (id : Nat) :
    (ParseTree.mk (preorderAll (.node top subtrees :: rest))).children id =
      (ParseTree.mk [top]).children id ++ (ParseTree.mk (preorderAll subtrees)).children id ++
        (ParseTree.mk (preorderAll rest)).children id := by
  rw [preorderAll, preorder, ParseTree.children_append, ← List.singleton_append,
    ParseTree.children_append]

private theorem children_preorderAll_cons_of_ne
    {top : TreeNode}
    {parent id : Nat}
    (topParent : top.parent = some parent)
    (notParent : id ≠ parent)
    (subtrees rest : List (RoseTree TreeNode)) :
    (ParseTree.mk (preorderAll (.node top subtrees :: rest))).children id =
      (ParseTree.mk (preorderAll subtrees)).children id ++
        (ParseTree.mk (preorderAll rest)).children id := by
  have elsewhere : top.parent ≠ some id := by
    rw [topParent]
    exact fun same => notParent (Option.some.inj same).symm
  rw [children_preorderAll_cons, ParseTree.children_cons_of_ne elsewhere]
  rfl

/-- Nothing hangs from a number that is neither the parent of the trees nor one of their nodes. -/
theorem children_of_elsewhere
    {parent id : Nat}
    {trees : List (RoseTree TreeNode)}
    (hang : AllHang parent trees)
    (notParent : id ≠ parent)
    (outside : id ∉ idsOfAll trees) :
    (ParseTree.mk (preorderAll trees)).children id = [] := by
  match trees with
  | [] => rfl
  | .node top subtrees :: rest =>
      obtain ⟨⟨topParent, subtreesHang⟩, restHang⟩ := hang
      obtain ⟨notTop, notInSubtrees, notInRest⟩ := (notMem_idsOfAll_cons _ _ _ _).mp outside
      rw [children_preorderAll_cons_of_ne topParent notParent,
        children_of_elsewhere subtreesHang notTop notInSubtrees,
        children_of_elsewhere restHang notParent notInRest, List.append_nil]

/-- From the parent of the trees hang their roots. -/
theorem children_of_parent
    {parent : Nat}
    {trees : List (RoseTree TreeNode)}
    (hang : AllHang parent trees)
    (outside : parent ∉ idsOfAll trees) :
    (ParseTree.mk (preorderAll trees)).children parent = trees.map root := by
  induction trees with
  | nil => rfl
  | cons tree rest inductionHypothesis =>
      obtain ⟨top, subtrees⟩ := tree
      obtain ⟨⟨topParent, subtreesHang⟩, restHang⟩ := hang
      obtain ⟨notTop, notInSubtrees, notInRest⟩ := (notMem_idsOfAll_cons _ _ _ _).mp outside
      rw [children_preorderAll_cons, ParseTree.children_cons_of_eq topParent,
        children_of_elsewhere subtreesHang notTop notInSubtrees,
        inductionHypothesis restHang notInRest]
      rfl

/-- The parse tree has no child of a node of the trees outside the trees. -/
def Enclosed (tree : ParseTree) (trees : List (RoseTree TreeNode)) : Prop :=
  ∀ id ∈ idsOfAll trees, tree.children id = (ParseTree.mk (preorderAll trees)).children id

/-- Trees that hang from a parent are read off a parse tree that encloses them.  The nodes of a tree
and those of the trees behind it have different numbers, so neither are children of the other. -/
theorem allReadOff_of_enclosed
    {tree : ParseTree}
    {parent : Nat}
    {trees : List (RoseTree TreeNode)}
    (hang : AllHang parent trees)
    (outside : parent ∉ idsOfAll trees)
    (distinct : (idsOfAll trees).Nodup)
    (enclosed : Enclosed tree trees) :
    AllReadOff tree trees := by
  match trees with
  | [] => trivial
  | .node top subtrees :: rest =>
      obtain ⟨⟨topParent, subtreesHang⟩, restHang⟩ := hang
      obtain ⟨notTop, notInSubtrees, notInRest⟩ := (notMem_idsOfAll_cons _ _ _ _).mp outside
      -- At a node of the trees, the children are those below the first root and those behind it.
      have split : ∀ id ∈ idsOfAll (.node top subtrees :: rest),
          tree.children id = (ParseTree.mk (preorderAll subtrees)).children id ++
            (ParseTree.mk (preorderAll rest)).children id := by
        intro id member
        have notParent : id ≠ parent := fun same => outside (same ▸ member)
        rw [enclosed id member, children_preorderAll_cons_of_ne topParent notParent]
      rw [idsOfAll_cons] at split
      rw [idsOfAll_cons, List.nodup_cons, List.mem_append, not_or, List.nodup_append] at distinct
      obtain ⟨⟨topNotInSubtrees, topNotInRest⟩, subtreesDistinct, restDistinct, apart⟩ := distinct
      refine ⟨⟨?_, ?_⟩, ?_⟩
      · rw [split top.id List.mem_cons_self, children_of_parent subtreesHang topNotInSubtrees,
          children_of_elsewhere restHang (Ne.symm notTop) topNotInRest, List.append_nil]
      · apply allReadOff_of_enclosed subtreesHang topNotInSubtrees subtreesDistinct
        intro id member
        have notParent : id ≠ parent := fun same => notInSubtrees (same ▸ member)
        have notBehind : id ∉ idsOfAll rest := fun behind => apart id member id behind rfl
        rw [split id (by simp [member]), children_of_elsewhere restHang notParent notBehind,
          List.append_nil]
      · apply allReadOff_of_enclosed restHang notInRest restDistinct
        intro id member
        have notTopId : id ≠ top.id := fun same => topNotInRest (same ▸ member)
        have notBelow : id ∉ idsOfAll subtrees := fun below => apart id below id member rfl
        rw [split id (by simp [member]), children_of_elsewhere subtreesHang notTopId notBelow,
          List.nil_append]

mutual

/-- What is read off a parse tree is fixed by the root. -/
theorem ReadOff.unique
    {tree : ParseTree}
    {first second : RoseTree TreeNode}
    (readFirst : first.ReadOff tree)
    (readSecond : second.ReadOff tree)
    (sameRoot : first.root = second.root) :
    first = second := by
  cases first with
  | node top subtrees =>
      cases second with
      | node other others =>
          obtain rfl : top = other := sameRoot
          have sameRoots : subtrees.map root = others.map root := readFirst.1.trans readSecond.1.symm
          rw [AllReadOff.unique readFirst.2 readSecond.2 sameRoots]

/-- A parse tree has one reading, which follows its children. -/
theorem AllReadOff.unique
    {tree : ParseTree}
    {first second : List (RoseTree TreeNode)}
    (readFirst : AllReadOff tree first)
    (readSecond : AllReadOff tree second)
    (sameRoots : first.map root = second.map root) :
    first = second := by
  cases first with
  | nil => exact (List.map_eq_nil_iff.mp sameRoots.symm).symm
  | cons subtree rest =>
      cases second with
      | nil => cases sameRoots
      | cons other others =>
          obtain ⟨sameRoot, sameOthers⟩ := List.cons.inj sameRoots
          rw [ReadOff.unique readFirst.1 readSecond.1 sameRoot,
            AllReadOff.unique readFirst.2 readSecond.2 sameOthers]

end

end RoseTree

/-! ### The parse tree of a program -/

namespace ParseTree

/-- One step from a node to its parent. -/
def Climbs (tree : ParseTree) (id parent : Nat) : Prop :=
  (parent, id) ∈ tree.edges

/-- The tree is read from the node with the given number on. -/
def ReadsFrom (tree : ParseTree) (id : Nat) (read : RoseTree TreeNode) : Prop :=
  tree.nodes[id]? = some read.root ∧ read.ReadOff tree

theorem climbs_iff (tree : ParseTree) (id parent : Nat) :
    tree.Climbs id parent ↔ ∃ node ∈ tree.nodes, node.id = id ∧ node.parent = some parent := by
  simp only [Climbs, edges, List.mem_filterMap, Option.map_eq_some_iff, Prod.mk.injEq]
  constructor
  · rintro ⟨node, member, above, hangs, rfl, rfl⟩
    exact ⟨node, member, rfl, hangs⟩
  · rintro ⟨node, member, rfl, hangs⟩
    exact ⟨node, member, parent, hangs, rfl, rfl⟩

section OfProgram

variable (program : Program)

/-- Nodes are numbered in their order, without gaps. -/
theorem ofProgram_ids :
    (ofProgram program).nodes.map TreeNode.id = List.range (ofProgram program).nodes.length := by
  rw [ofProgram, List.map_cons, flatten_ids, List.length_cons, List.range_eq_range',
    List.range'_succ]

private theorem id_of_getElem?
    {index : Nat}
    {node : TreeNode}
    (found : (ofProgram program).nodes[index]? = some node) :
    node.id = index := by
  have sameId : ((ofProgram program).nodes.map TreeNode.id)[index]? = some node.id := by
    rw [List.getElem?_map, found, Option.map_some]
  rw [ofProgram_ids, List.getElem?_eq_some_iff] at sameId
  obtain ⟨_, isIndex⟩ := sameId
  rw [← isIndex, List.getElem_range]

private theorem parent_of_mem_ofProgram
    {node : TreeNode}
    (member : node ∈ (ofProgram program).nodes)
    (notRoot : node.id ≠ 0) :
    ∃ above, node.parent = some above ∧ above < node.id := by
  rcases List.mem_cons.mp member with isRoot | below
  · exact absurd (congrArg TreeNode.id isRoot) notRoot
  · exact parent_of_mem_flatten Nat.zero_lt_one program.toTree node below

/-- Every node but the root has one edge to its parent. -/
theorem length_edges_ofProgram :
    (ofProgram program).edges.length + 1 = (ofProgram program).nodes.length := by
  have allBelow : ∀ node ∈ flatten 0 1 program.toTree, (node.parent.map (·, node.id)).isSome := by
    intro node member
    obtain ⟨above, hangs, -⟩ := parent_of_mem_flatten Nat.zero_lt_one program.toTree node member
    rw [hangs]
    rfl
  have counted : (ofProgram program).edges.length = (flatten 0 1 program.toTree).length := by
    rw [edges, ofProgram, List.filterMap_cons_none rfl, List.length_filterMap_eq_countP,
      List.countP_eq_length]
    exact allBelow
  rw [counted, ofProgram, List.length_cons]

private theorem climbs_root {id : Nat} (below : id < (ofProgram program).nodes.length) :
    Relation.ReflTransGen (ofProgram program).Climbs id 0 := by
  induction id using Nat.strongRecOn with
  | _ id inductionHypothesis =>
      by_cases isRoot : id = 0
      · rw [isRoot]
      · have found : (ofProgram program).nodes[id]? = some (ofProgram program).nodes[id] :=
          List.getElem?_eq_getElem below
        have sameId := id_of_getElem? program found
        obtain ⟨above, hangs, smaller⟩ := parent_of_mem_ofProgram program
          (List.getElem_mem below) (by rwa [sameId])
        rw [sameId] at smaller
        have step : (ofProgram program).Climbs id above :=
          (climbs_iff _ _ _).mpr ⟨_, List.getElem_mem below, sameId, hangs⟩
        exact .head step (inductionHypothesis above smaller (Nat.lt_trans smaller below))

private theorem lt_of_climbs {id above : Nat} (step : (ofProgram program).Climbs id above) :
    above < id := by
  obtain ⟨node, member, rfl, hangs⟩ := (climbs_iff _ _ _).mp step
  rcases List.mem_cons.mp member with isRoot | below
  · rw [isRoot] at hangs
    cases hangs
  · obtain ⟨parent, hangsToo, smaller⟩ :=
      parent_of_mem_flatten Nat.zero_lt_one program.toTree node below
    rw [hangs] at hangsToo
    rwa [Option.some.inj hangsToo]

private theorem id_lt_of_mem {node : TreeNode} (member : node ∈ (ofProgram program).nodes) :
    node.id < (ofProgram program).nodes.length := by
  rw [← List.mem_range, ← ofProgram_ids]
  exact List.mem_map_of_mem member

/-- Wherever parents lead from a node, they lead on to the root. -/
theorem climbs_root_of_reached
    {node : TreeNode}
    (member : node ∈ (ofProgram program).nodes)
    {reached : Nat}
    (climbs : Relation.ReflTransGen (ofProgram program).Climbs node.id reached) :
    Relation.ReflTransGen (ofProgram program).Climbs reached 0 := by
  have noFurther : reached ≤ node.id := by
    induction climbs with
    | refl => exact Nat.le_refl _
    | tail _ step inductionHypothesis =>
        exact Nat.le_trans (Nat.le_of_lt (lt_of_climbs program step)) inductionHypothesis
  exact climbs_root program (Nat.lt_of_le_of_lt noFurther (id_lt_of_mem program member))

/-- The nested tree that the parse tree of a program is read as. -/
theorem exists_read_ofProgram :
    ∃ read : RoseTree TreeNode, (ofProgram program).ReadsFrom 0 read ∧
      read.preorder = (ofProgram program).nodes ∧
      read.map TreeNode.label = .node "root" program.toTree.spliced := by
  obtain ⟨trees, nodes, labels, hang⟩ := exists_trees_of_flatten 0 1 program.toTree
  have ids : RoseTree.idsOfAll trees = List.range' 1 (flatten 0 1 program.toTree).length := by
    rw [RoseTree.idsOfAll, nodes, flatten_ids]
  have outside : 0 ∉ RoseTree.idsOfAll trees := by simp [ids]
  have distinct : (RoseTree.idsOfAll trees).Nodup := by
    rw [ids]
    exact List.nodup_range'
  have withoutRoot : ∀ id, (ofProgram program).children id =
      (mk (RoseTree.preorderAll trees)).children id := by
    intro id
    rw [nodes]
    exact children_cons_of_ne (by simp) _
  refine ⟨.node ⟨0, "root", none⟩ trees, ⟨rfl, ?_, ?_⟩, ?_, ?_⟩
  · rw [withoutRoot, RoseTree.children_of_parent hang outside]
  · exact RoseTree.allReadOff_of_enclosed hang outside distinct fun id _ => withoutRoot id
  · rw [RoseTree.preorder, nodes, ofProgram]
  · rw [RoseTree.map, labels]

end OfProgram

/-- **A parse tree is a faithful pre-order.**  Every node stands at the place of its number.  Node 0
is the root, and every other node has a parent with a smaller number, so there is one edge fewer
than there are nodes, and parents always lead to the root.  Read from node 0 on, with the children
of each node in their order, the parse tree is one nested tree: its labels are those of the program
with the lists spliced, and its nodes are numbered in pre-order. -/
theorem parseTree_is_preorder (program : Program) :
    let tree := ofProgram program
    (∀ (index : Nat) (node : TreeNode), tree.nodes[index]? = some node → node.id = index) ∧
    tree.nodes[0]? = some ⟨0, "root", none⟩ ∧
    (∀ node ∈ tree.nodes, node.id ≠ 0 →
      ∃ parent, node.parent = some parent ∧ parent < node.id) ∧
    tree.edges.length + 1 = tree.nodes.length ∧
    (∀ node ∈ tree.nodes, ∀ reached, Relation.ReflTransGen tree.Climbs node.id reached →
      Relation.ReflTransGen tree.Climbs reached 0) ∧
    ∃ read : RoseTree TreeNode,
      (∀ candidate, tree.ReadsFrom 0 candidate ↔ candidate = read) ∧
      read.map TreeNode.label = .node "root" program.toTree.spliced ∧
      read.preorder = tree.nodes ∧
      read.preorder.map TreeNode.id = List.range read.preorder.length := by
  intro tree
  obtain ⟨read, readsFrom, nodes, labels⟩ := exists_read_ofProgram program
  refine ⟨?_, rfl, ?_, length_edges_ofProgram program, ?_, read, ?_, labels, nodes, ?_⟩
  · intro index node found
    exact id_of_getElem? program found
  · intro node member notRoot
    exact parent_of_mem_ofProgram program member notRoot
  · intro node member reached climbs
    exact climbs_root_of_reached program member climbs
  · intro candidate
    constructor
    · intro candidateReads
      have sameRoot : candidate.root = read.root :=
        Option.some.inj (candidateReads.1.symm.trans readsFrom.1)
      exact candidateReads.2.unique readsFrom.2 sameRoot
    · rintro rfl
      exact readsFrom
  · rw [nodes]
    exact ofProgram_ids program

end ParseTree

end Reckoner
