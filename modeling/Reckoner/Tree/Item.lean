import Reckoner.Program

/-!
Contract: programs as labelled trees.

Owns: tree items, and the items of numbers, names, expressions, statements and programs.

Does not own: the numbering of the nodes.
-/

namespace Reckoner

/-- Part of a labelled tree.  A list stands for its members and adds no node of its own. -/
inductive TreeItem where
  | node (label : String) (children : List TreeItem)
  | list (items : List TreeItem)
  | leaf (label : String)

/-- A number is a leaf labelled with its text. -/
def Number.toTree (number : Number) : TreeItem :=
  .leaf number.text

namespace Expr

mutual

/-- An expression is a node labelled with its kind or its operator. -/
def toTree : Expr → TreeItem
  | .number value _ => .node "NUMBER" [value.toTree]
  | .identifier name _ => .node "ID" [.leaf name]
  | .group inner _ => .node "GROUP" [toTree inner]
  | .operation operator operands _ => .node operator.keyword [.list (toTrees operands)]

def toTrees : List Expr → List TreeItem
  | [] => []
  | expr :: rest => toTree expr :: toTrees rest

end

end Expr

/-- A statement is a node labelled with its kind, over the name it concerns and its expression. -/
def Statement.toTree : Statement → TreeItem
  | .declare name value _ => .node "DECLARE" [.leaf name, value.toTree]
  | .assign name value _ => .node "ASSIGN" [.leaf name, value.toTree]
  | .print value _ => .node "PRINT" [value.toTree]

def Program.toTree (program : Program) : TreeItem :=
  .list (program.map Statement.toTree)

end Reckoner
