import Reckoner.Proofs.Layout
import Reckoner.Proofs.NumberText
import Reckoner.Proofs.PreOrder

/-!
Contract: the parse tree of a program keeps everything but the lines.

Names, numbers and the kinds of nodes all become labels, and lists of operands and of statements
leave no node behind.  What a label stands for is told by its place: the label of a node tells the
constructor, and with it which of the nodes below are content.  Each expression and each statement is
one nested tree, so lists fall apart again into their members.

Owns: the nested trees of expressions and statements, and that they determine everything but lines.

Does not own: the flattening of nested trees into numbered nodes.
-/

namespace Reckoner

/-! ### Nested trees of programs -/

mutual

def Expr.labelled : Expr → RoseTree String
  | .number value _ => .node "NUMBER" [.node value.text []]
  | .identifier name _ => .node "ID" [.node name []]
  | .group inner _ => .node "GROUP" [inner.labelled]
  | .operation operator operands _ => .node operator.keyword (Expr.allLabelled operands)

def Expr.allLabelled : List Expr → List (RoseTree String)
  | [] => []
  | expr :: rest => expr.labelled :: Expr.allLabelled rest

end

def Statement.labelled : Statement → RoseTree String
  | .declare name value _ => .node "DECLARE" [.node name [], value.labelled]
  | .assign name value _ => .node "ASSIGN" [.node name [], value.labelled]
  | .print value _ => .node "PRINT" [value.labelled]

mutual

private theorem Expr.spliced_toTree (expr : Expr) : expr.toTree.spliced = [expr.labelled] := by
  cases expr with
  | number value line => rfl
  | identifier name line => rfl
  | group inner line =>
      simp only [toTree, labelled, TreeItem.spliced, TreeItem.allSpliced, inner.spliced_toTree,
        List.append_nil]
  | operation operator operands line =>
      simp only [toTree, labelled, TreeItem.spliced, TreeItem.allSpliced,
        Expr.allSpliced_toTrees operands, List.append_nil]

private theorem Expr.allSpliced_toTrees (exprs : List Expr) :
    TreeItem.allSpliced (Expr.toTrees exprs) = Expr.allLabelled exprs := by
  cases exprs with
  | nil => rfl
  | cons expr rest =>
      rw [toTrees, TreeItem.allSpliced, expr.spliced_toTree, Expr.allSpliced_toTrees rest,
        allLabelled, List.singleton_append]

end

private theorem Statement.spliced_toTree (statement : Statement) :
    statement.toTree.spliced = [statement.labelled] := by
  cases statement <;>
    simp [toTree, labelled, TreeItem.spliced, TreeItem.allSpliced, Expr.spliced_toTree]

theorem Program.spliced_toTree (program : Program) :
    (Program.toTree program).spliced = program.map Statement.labelled := by
  rw [Program.toTree, TreeItem.spliced]
  induction program with
  | nil => rfl
  | cons statement rest inductionHypothesis =>
      rw [List.map_cons, TreeItem.allSpliced, statement.spliced_toTree, inductionHypothesis,
        List.map_cons, List.singleton_append]

/-! ### What a nested tree tells -/

/-- The label of an operation tells its operator. -/
theorem Operator.keyword_injective : Function.Injective Operator.keyword := by
  intro left right same
  have found := ofKeyword?_keyword left
  rw [same, ofKeyword?_keyword] at found
  exact (Option.some.inj found).symm

/-- No operator is written like the label of another kind of expression. -/
theorem Operator.keyword_ne
    (operator : Operator)
    {kind : String}
    (isKind : kind ∈ ["NUMBER", "ID", "GROUP"]) :
    operator.keyword ≠ kind := by
  have notKind : operator.keyword ∉ ["NUMBER", "ID", "GROUP"] := by
    rcases operator with operator | operator <;> cases operator <;> decide
  exact fun same => notKind (same ▸ isKind)

mutual

private theorem Expr.withoutLines_eq_of_labelled
    {left right : Expr}
    (same : left.labelled = right.labelled) :
    left.withoutLines = right.withoutLines := by
  -- Different constructors have different labels at the root.
  have sameLabel := congrArg RoseTree.root same
  cases left with
  | number value line =>
      cases right with
      | number other otherLine =>
          simp only [labelled, RoseTree.node.injEq, List.cons.injEq, and_true, true_and] at same
          rw [withoutLines, withoutLines, Number.text_injective same]
      | identifier | group => simp [labelled, RoseTree.root] at sameLabel
      | operation operator =>
          exact absurd sameLabel.symm (operator.keyword_ne (by simp [labelled, RoseTree.root]))
  | identifier name line =>
      cases right with
      | identifier other otherLine =>
          simp only [labelled, RoseTree.node.injEq, List.cons.injEq, and_true, true_and] at same
          rw [withoutLines, withoutLines, same]
      | number | group => simp [labelled, RoseTree.root] at sameLabel
      | operation operator =>
          exact absurd sameLabel.symm (operator.keyword_ne (by simp [labelled, RoseTree.root]))
  | group inner line =>
      cases right with
      | group other otherLine =>
          simp only [labelled, RoseTree.node.injEq, List.cons.injEq, and_true, true_and] at same
          rw [withoutLines, withoutLines, Expr.withoutLines_eq_of_labelled same]
      | number | identifier => simp [labelled, RoseTree.root] at sameLabel
      | operation operator =>
          exact absurd sameLabel.symm (operator.keyword_ne (by simp [labelled, RoseTree.root]))
  | operation operator operands line =>
      cases right with
      | operation other others otherLine =>
          simp only [labelled, RoseTree.node.injEq] at same
          rw [withoutLines, withoutLines, Operator.keyword_injective same.1,
            Expr.allWithoutLines_eq_of_allLabelled same.2]
      | number | identifier | group =>
          exact absurd sameLabel (operator.keyword_ne (by simp [labelled, RoseTree.root]))

private theorem Expr.allWithoutLines_eq_of_allLabelled
    {left right : List Expr}
    (same : Expr.allLabelled left = Expr.allLabelled right) :
    Expr.allWithoutLines left = Expr.allWithoutLines right := by
  cases left with
  | nil =>
      cases right with
      | nil => rfl
      | cons expr rest => cases same
  | cons expr rest =>
      cases right with
      | nil => cases same
      | cons other others =>
          obtain ⟨sameFirst, sameRest⟩ := List.cons.inj same
          rw [allWithoutLines, allWithoutLines, Expr.withoutLines_eq_of_labelled sameFirst,
            Expr.allWithoutLines_eq_of_allLabelled sameRest]

end

private theorem Statement.withoutLines_eq_of_labelled
    {left right : Statement}
    (same : left.labelled = right.labelled) :
    left.withoutLines = right.withoutLines := by
  cases left <;> cases right <;>
    simp only [labelled, RoseTree.node.injEq, List.cons.injEq, String.reduceEq, and_true, true_and,
      false_and] at same
  · rw [withoutLines, withoutLines, same.1, Expr.withoutLines_eq_of_labelled same.2]
  · rw [withoutLines, withoutLines, same.1, Expr.withoutLines_eq_of_labelled same.2]
  · rw [withoutLines, withoutLines, Expr.withoutLines_eq_of_labelled same]

private theorem Statement.map_withoutLines_eq_of_labelled
    {left right : Program}
    (same : left.map Statement.labelled = right.map Statement.labelled) :
    left.map Statement.withoutLines = right.map Statement.withoutLines := by
  induction left generalizing right with
  | nil => rw [List.map_eq_nil_iff.mp same.symm]
  | cons statement rest inductionHypothesis =>
      cases right with
      | nil => cases same
      | cons other others =>
          obtain ⟨sameFirst, sameRest⟩ := List.cons.inj same
          rw [List.map_cons, List.map_cons, Statement.withoutLines_eq_of_labelled sameFirst,
            inductionHypothesis sameRest]

/-! ### Lines leave no trace -/

mutual

private theorem Expr.toTree_withoutLines (expr : Expr) :
    expr.withoutLines.toTree = expr.toTree := by
  cases expr with
  | number value line => rfl
  | identifier name line => rfl
  | group inner line => simp only [withoutLines, toTree, inner.toTree_withoutLines]
  | operation operator operands line =>
      simp only [withoutLines, toTree, Expr.toTrees_allWithoutLines operands]

private theorem Expr.toTrees_allWithoutLines (exprs : List Expr) :
    Expr.toTrees (Expr.allWithoutLines exprs) = Expr.toTrees exprs := by
  cases exprs with
  | nil => rfl
  | cons expr rest =>
      rw [allWithoutLines, toTrees, toTrees, expr.toTree_withoutLines,
        Expr.toTrees_allWithoutLines rest]

end

private theorem Statement.toTree_withoutLines (statement : Statement) :
    statement.withoutLines.toTree = statement.toTree := by
  cases statement <;> simp only [withoutLines, toTree, Expr.toTree_withoutLines]

namespace ParseTree

/-- Lines do not show in the parse tree. -/
theorem ofProgram_withoutLines (program : Program) :
    ofProgram (program.map Statement.withoutLines) = ofProgram program := by
  have sameItems : (program.map Statement.withoutLines).map Statement.toTree =
      program.map Statement.toTree := by
    rw [List.map_map]
    exact List.map_congr_left fun statement _ => statement.toTree_withoutLines
  rw [ofProgram, ofProgram, Program.toTree, Program.toTree, sameItems]

/-- Programs with the same parse tree have the same nested trees, because both are read off it. -/
theorem labelled_eq_of_ofProgram
    {left right : Program}
    (same : ofProgram left = ofProgram right) :
    left.map Statement.labelled = right.map Statement.labelled := by
  obtain ⟨leftRead, ⟨leftRoot, leftOff⟩, -, leftLabels⟩ := exists_read_ofProgram left
  obtain ⟨rightRead, ⟨rightRoot, rightOff⟩, -, rightLabels⟩ := exists_read_ofProgram right
  rw [same] at leftRoot leftOff
  have sameRead : leftRead = rightRead :=
    leftOff.unique rightOff (Option.some.inj (leftRoot.symm.trans rightRoot))
  rw [sameRead, rightLabels, RoseTree.node.injEq] at leftLabels
  rw [← Program.spliced_toTree, ← Program.spliced_toTree]
  exact leftLabels.2.symm

/-- **A parse tree loses only lines.**  Two programs have the same parse tree exactly if they are
equal up to the lines of their nodes.  Reals have a single not-a-number, so the text of a number
stands for one number only. -/
theorem parseTree_loses_only_lines (left right : Program) :
    ofProgram left = ofProgram right ↔
      left.map Statement.withoutLines = right.map Statement.withoutLines := by
  constructor
  · intro same
    exact Statement.map_withoutLines_eq_of_labelled (labelled_eq_of_ofProgram same)
  · intro same
    rw [← ofProgram_withoutLines left, same, ofProgram_withoutLines]

end ParseTree

end Reckoner
