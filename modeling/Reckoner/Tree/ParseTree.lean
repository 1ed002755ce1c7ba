import Reckoner.Tree.Item

/-!
Contract: parse trees, whose nodes are numbered in pre-order.

Owns: nodes with their numbers and parents, the flattening of tree items, the parse tree of a
program, its edges, and the children of a node.

Does not own: the drawing of a tree.
-/

namespace Reckoner

structure TreeNode where
  id : Nat
  label : String
  parent : Option Nat
deriving DecidableEq

/-- A tree as the list of its nodes. -/
structure ParseTree where
  nodes : List TreeNode := []
deriving DecidableEq

namespace ParseTree

mutual

/-- The nodes of an item below `parent`, numbered from `next` on. -/
def flatten (parent next : Nat) : TreeItem → List TreeNode
  | .node label children => ⟨next, label, some parent⟩ :: flattenAll next (next + 1) children
  | .list items => flattenAll parent next items
  | .leaf label => [⟨next, label, some parent⟩]

def flattenAll (parent next : Nat) : List TreeItem → List TreeNode
  | [] => []
  | item :: rest =>
      let nodes := flatten parent next item
      nodes ++ flattenAll parent (next + nodes.length) rest

end

/-- The parse tree of a program.  All statements hang from the node `root`. -/
def ofProgram (program : Program) : ParseTree :=
  ⟨⟨0, "root", none⟩ :: flatten 0 1 program.toTree⟩

def children (tree : ParseTree) (id : Nat) : List TreeNode :=
  tree.nodes.filter fun node => node.parent = some id

/-- The pairs of a parent and its child, in the order of the children. -/
def edges (tree : ParseTree) : List (Nat × Nat) :=
  tree.nodes.filterMap fun node => node.parent.map fun parent => (parent, node.id)

end ParseTree

end Reckoner
