import Reckoner.Tree.ParseTree

/-!
Contract: parse trees as DOT text.

The text lists the nodes and then the edges, one a line, in the order of the tree.

Owns: the escapes within a label, and the text of nodes, edges and trees.

Does not own: the layout of a drawing.
-/

namespace Reckoner.ParseTree

/-- A label between quotes: backslashes and quotes are preceded by a backslash. -/
def escapeLabel : List Char → List Char
  | [] => []
  | '\\' :: rest => '\\' :: '\\' :: escapeLabel rest
  | '"' :: rest => '\\' :: '"' :: escapeLabel rest
  | c :: rest => c :: escapeLabel rest

def replaceAll (target : Char) (replacement : List Char) (text : List Char) : List Char :=
  text.flatMap fun c => if c = target then replacement else [c]

/-- The escapes are two replacements.  Backslashes have to come first, because the escape of a quote
has a backslash of its own. -/
theorem escapeLabel_eq_replaceAll (label : List Char) :
    escapeLabel label = replaceAll '"' ['\\', '"'] (replaceAll '\\' ['\\', '\\'] label) := by
  fun_induction escapeLabel label with
  | case1 => rfl
  | case2 rest inductionHypothesis => simp [replaceAll, inductionHypothesis]
  | case3 rest inductionHypothesis => simp [replaceAll, inductionHypothesis]
  | case4 c rest notBackslash notQuote inductionHypothesis =>
      simp [replaceAll, inductionHypothesis, if_neg notBackslash, if_neg notQuote]

def nodeLine (node : TreeNode) : String :=
  s!"    n{node.id} [label=\"{String.ofList (escapeLabel node.label.toList)}\"];\n"

def edgeLine (edge : Nat × Nat) : String :=
  s!"    n{edge.1} -> n{edge.2};\n"

def dot (tree : ParseTree) : String :=
  "digraph ParseTree \x7b\n" ++ String.join (tree.nodes.map nodeLine) ++
    String.join (tree.edges.map edgeLine) ++ "\x7d\n"

end Reckoner.ParseTree
