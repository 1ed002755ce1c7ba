import Mathlib.Data.List.Nodup
import Reckoner.Proofs.NumberText
import Reckoner.Proofs.PreOrder
import Reckoner.Tree.Dot

/-!
Contract: the DOT text of a parse tree can be read back.

A label is any text, line breaks included, so a line of the text does not end where a line break
stands.  The reader goes by the quotes: a quote closes a label if the character before it does not
escape it, and no such quote stands within an escaped label.  Behind the label the reader knows again
what to expect.  Nodes are listed without their parents, which the edges give back, since no two
nodes have the same number.

Owns: the escaped positions of a text, the undoing of escapes, and a reader of DOT texts.

Does not own: DOT texts other than those of parse trees.
-/

namespace Reckoner.ParseTree

/-! ### Labels between quotes -/

/-- Whether the character behind `c` is escaped, given whether `c` itself is. -/
def escapesNext (escaped : Bool) (c : Char) : Bool :=
  !escaped && c == '\\'

/-- Whether the character behind a text is escaped. -/
def endsEscaped (text : List Char) : Bool :=
  text.foldl escapesNext false

/-- A text that can stand between quotes: each quote within is escaped, and the closing one is not. -/
structure Quotable (text : List Char) : Prop where
  inside : ∀ before after, text = before ++ '"' :: after → endsEscaped before = true
  closes : endsEscaped text = false

/-- The text without its escapes.  Nothing but backslashes and quotes is escaped, and both always
are. -/
def unescape? : List Char → Option (List Char)
  | [] => some []
  | '\\' :: '\\' :: rest => (unescape? rest).map ('\\' :: ·)
  | '\\' :: '"' :: rest => (unescape? rest).map ('"' :: ·)
  | c :: rest => if c = '\\' ∨ c = '"' then none else (unescape? rest).map (c :: ·)

/-- Escapes can be undone, so no label is lost. -/
theorem unescape?_escapeLabel (label : List Char) : unescape? (escapeLabel label) = some label := by
  fun_induction escapeLabel label with
  | case1 => rfl
  | case2 rest inductionHypothesis => simp [unescape?, inductionHypothesis]
  | case3 rest inductionHypothesis => simp [unescape?, inductionHypothesis]
  | case4 c rest notBackslash notQuote inductionHypothesis =>
      simp_all [unescape?]

private theorem endsEscaped_escapeLabel (label : List Char) :
    endsEscaped (escapeLabel label) = false := by
  unfold endsEscaped
  fun_induction escapeLabel label with
  | case1 => rfl
  | case2 rest inductionHypothesis => exact inductionHypothesis
  | case3 rest inductionHypothesis => exact inductionHypothesis
  | case4 c rest notBackslash notQuote inductionHypothesis =>
      have escapesNothing : escapesNext false c = false := by simpa [escapesNext] using notBackslash
      rw [List.foldl_cons, escapesNothing, inductionHypothesis]

/-- Every quote of an escaped label comes right behind the backslash that was put before it. -/
theorem endsEscaped_of_quote_mem
    {label before after : List Char}
    (found : escapeLabel label = before ++ '"' :: after) :
    endsEscaped before = true := by
  unfold endsEscaped
  -- Each character of the label is written as one or two, behind which nothing is escaped.
  fun_induction escapeLabel label generalizing before with
  | case1 => simp at found
  | case2 rest inductionHypothesis =>
      rcases before with _ | ⟨first, _ | ⟨second, before⟩⟩
      · simp at found
      · simp at found
      · obtain ⟨rfl, foundBehind⟩ := List.cons.inj found
        obtain ⟨rfl, foundFurther⟩ := List.cons.inj foundBehind
        have escapedFurther := inductionHypothesis foundFurther
        exact escapedFurther
  | case3 rest inductionHypothesis =>
      rcases before with _ | ⟨first, _ | ⟨second, before⟩⟩
      · simp at found
      · obtain ⟨rfl, -⟩ := List.cons.inj found
        rfl
      · obtain ⟨rfl, foundBehind⟩ := List.cons.inj found
        obtain ⟨rfl, foundFurther⟩ := List.cons.inj foundBehind
        have escapedFurther := inductionHypothesis foundFurther
        exact escapedFurther
  | case4 c rest notBackslash notQuote inductionHypothesis =>
      cases before with
      | nil => exact absurd (List.cons.inj found).1 notQuote
      | cons first before =>
          obtain ⟨rfl, foundBehind⟩ := List.cons.inj found
          have escapesNothing : escapesNext false c = false := by
            simpa [escapesNext] using notBackslash
          rw [List.foldl_cons, escapesNothing]
          exact inductionHypothesis foundBehind

private theorem quotable_escapeLabel (label : List Char) : Quotable (escapeLabel label) where
  inside := fun _ _ found => endsEscaped_of_quote_mem found
  closes := endsEscaped_escapeLabel label

/-! ### A reader of DOT texts -/

/-- What stands before the first quote that is not escaped, and what stands behind it. -/
def untilQuote? (escaped : Bool) : List Char → Option (List Char × List Char)
  | [] => none
  | c :: rest =>
      if escaped = false ∧ c = '"' then some ([], rest)
      else (untilQuote? (escapesNext escaped c) rest).map fun (text, behind) => (c :: text, behind)

def number? (text : List Char) : Option (Nat × List Char) :=
  if (text.takeWhile Char.isDigit).isEmpty then none
  else some (Decimal.ofDigits (text.takeWhile Char.isDigit), text.dropWhile Char.isDigit)

/-- The node of a line, without its parent, and what stands behind the line. -/
def node? (text : List Char) : Option (TreeNode × List Char) := do
  let text ← text.dropPrefix? "    n".toList
  let (id, text) ← number? text
  let text ← text.dropPrefix? " [label=\"".toList
  let (quoted, text) ← untilQuote? false text
  let label ← unescape? quoted
  let text ← text.dropPrefix? "];\n".toList
  return (⟨id, String.ofList label, none⟩, text)

def edge? (text : List Char) : Option ((Nat × Nat) × List Char) := do
  let text ← text.dropPrefix? "    n".toList
  let (parent, text) ← number? text
  let text ← text.dropPrefix? " -> n".toList
  let (child, text) ← number? text
  let text ← text.dropPrefix? ";\n".toList
  return ((parent, child), text)

/-- As many items as can be read one behind the other, and what stands behind them. -/
def readAll {α : Type} (item? : List Char → Option (α × List Char)) (text : List Char) :
    List α × List Char :=
  match item? text with
  | none => ([], text)
  | some (item, behind) =>
      if behind.length < text.length then
        let (items, remainder) := readAll item? behind
        (item :: items, remainder)
      else ([], text)
termination_by text.length

def parentIn (edges : List (Nat × Nat)) (id : Nat) : Option Nat :=
  (edges.find? fun edge => edge.2 = id).map Prod.fst

/-- The parse tree that a DOT text describes. -/
def ofDot? (text : String) : Option ParseTree := do
  let text ← text.toList.dropPrefix? "digraph ParseTree \x7b\n".toList
  let (nodes, text) := readAll node? text
  let (edges, text) := readAll edge? text
  if text = "\x7d\n".toList then
    return ⟨nodes.map fun node => { node with parent := parentIn edges node.id }⟩
  else none

/-! ### Reading what was written -/

/-- The reader stops at the quote that closes a text. -/
theorem untilQuote?_append
    {escaped : Bool}
    {text : List Char}
    (inside : ∀ before after, text = before ++ '"' :: after →
      before.foldl escapesNext escaped = true)
    (closes : text.foldl escapesNext escaped = false)
    (behind : List Char) :
    untilQuote? escaped (text ++ '"' :: behind) = some (text, behind) := by
  induction text generalizing escaped with
  | nil => simp_all [untilQuote?]
  | cons c rest inductionHypothesis =>
      have notClosing : ¬ (escaped = false ∧ c = '"') := by
        rintro ⟨rfl, rfl⟩
        cases inside [] rest rfl
      have readRest := inductionHypothesis
        (fun before after found => inside (c :: before) after (by rw [found, List.cons_append]))
        closes
      rw [List.cons_append, untilQuote?, if_neg notClosing, readRest]
      rfl

private theorem number?_digits
    (n : Nat)
    {behind : List Char}
    (stops : behind.head?.any Char.isDigit = false) :
    number? (Decimal.digits n ++ behind) = some (n, behind) := by
  have allDigits : ∀ c ∈ Decimal.digits n, c.isDigit = true :=
    fun c member => Decimal.isDigit_of_mem_digits member
  have noMore : behind.takeWhile Char.isDigit = [] ∧ behind.dropWhile Char.isDigit = behind := by
    cases behind with
    | nil => exact ⟨rfl, rfl⟩
    | cons c rest =>
        have notDigit : ¬ c.isDigit = true := by simpa using stops
        exact ⟨List.takeWhile_cons_of_neg notDigit, List.dropWhile_cons_of_neg notDigit⟩
  rw [number?, List.takeWhile_append_of_pos allDigits, List.dropWhile_append_of_pos allDigits,
    noMore.1, noMore.2, List.append_nil, Decimal.ofDigits_digits,
    if_neg (by simp [Decimal.digits_ne_nil])]

private theorem toList_toString (n : Nat) : (toString n).toList = Decimal.digits n := by
  rw [Nat.toString_eq_repr, Nat.toList_repr, Decimal.digits]

private theorem toList_nodeLine (node : TreeNode) :
    (nodeLine node).toList =
      "    n".toList ++ Decimal.digits node.id ++ " [label=\"".toList ++
        escapeLabel node.label.toList ++ "\"];\n".toList := by
  have plain (text : String) : toString text = text := rfl
  simp only [nodeLine, String.toList_append, toList_toString, plain, String.toList_ofList]

private theorem toList_edgeLine (edge : Nat × Nat) :
    (edgeLine edge).toList =
      "    n".toList ++ Decimal.digits edge.1 ++ " -> n".toList ++ Decimal.digits edge.2 ++
        ";\n".toList := by
  have plain (text : String) : toString text = text := rfl
  simp only [edgeLine, String.toList_append, toList_toString, plain]

private theorem dropPrefix?_append (opening behind : List Char) :
    (opening ++ behind).dropPrefix? opening = some behind :=
  List.dropPrefix?_append_of_beq behind (beq_self_eq_true opening)

/-- The line of a node is read back, apart from the parent, which only edges tell. -/
theorem node?_nodeLine (node : TreeNode) (behind : List Char) :
    node? ((nodeLine node).toList ++ behind) = some ({ node with parent := none }, behind) := by
  have quotable := quotable_escapeLabel node.label.toList
  have closing : "\"];\n".toList = '"' :: "];\n".toList := rfl
  have label : untilQuote? false
      (escapeLabel node.label.toList ++ ("\"];\n".toList ++ behind)) =
        some (escapeLabel node.label.toList, "];\n".toList ++ behind) := by
    rw [closing, List.cons_append]
    exact untilQuote?_append quotable.inside quotable.closes _
  simp only [toList_nodeLine, List.append_assoc, node?, dropPrefix?_append, Option.bind_eq_bind,
    Option.bind_some]
  rw [number?_digits node.id rfl]
  simp only [dropPrefix?_append, label, unescape?_escapeLabel, Option.bind_some,
    String.ofList_toList]
  rfl

/-- The line of an edge is read back. -/
theorem edge?_edgeLine (edge : Nat × Nat) (behind : List Char) :
    edge? ((edgeLine edge).toList ++ behind) = some (edge, behind) := by
  simp only [toList_edgeLine, List.append_assoc, edge?, dropPrefix?_append, Option.bind_eq_bind,
    Option.bind_some]
  rw [number?_digits edge.1 rfl]
  simp only [dropPrefix?_append, Option.bind_some]
  rw [number?_digits edge.2 rfl]
  simp only [dropPrefix?_append, Option.bind_some]
  rfl

/-- Behind the first number, the line of an edge goes on differently from that of a node. -/
theorem node?_edgeLine (edge : Nat × Nat) (behind : List Char) :
    node? ((edgeLine edge).toList ++ behind) = none := by
  simp only [toList_edgeLine, List.append_assoc, node?, dropPrefix?_append, Option.bind_eq_bind,
    Option.bind_some]
  rw [number?_digits edge.1 rfl]
  rfl

/-- Items that are written one behind the other are read one by one, up to what is no item. -/
theorem readAll_join
    {α β : Type}
    (item? : List Char → Option (α × List Char))
    (line : β → String)
    (content : β → α)
    (reads : ∀ item behind, item? ((line item).toList ++ behind) = some (content item, behind))
    (nonempty : ∀ item, 0 < (line item).toList.length)
    {behind : List Char}
    (stops : item? behind = none)
    (items : List β) :
    readAll item? ((String.join (items.map line)).toList ++ behind) =
      (items.map content, behind) := by
  induction items with
  | nil =>
      rw [List.map_nil, String.join_nil, String.toList_empty, List.nil_append, readAll, stops]
      rfl
  | cons item rest inductionHypothesis =>
      have shorter : ((String.join (rest.map line)).toList ++ behind).length <
          ((line item).toList ++ ((String.join (rest.map line)).toList ++ behind)).length := by
        have positive := nonempty item
        simp only [List.length_append]
        omega
      rw [List.map_cons, String.join_cons, String.toList_append, List.append_assoc, readAll,
        reads]
      simp only [shorter, if_true, inductionHypothesis, List.map_cons]

/-! ### Trees -/

/-- The edges tell the parents when no two nodes have the same number. -/
theorem parentIn_edges
    {tree : ParseTree}
    (distinct : (tree.nodes.map TreeNode.id).Nodup)
    {node : TreeNode}
    (member : node ∈ tree.nodes) :
    parentIn tree.edges node.id = node.parent := by
  cases found : tree.edges.find? fun edge => edge.2 = node.id with
  | none =>
      rw [parentIn, found, Option.map_none]
      cases hangs : node.parent with
      | none => rfl
      | some parent =>
          have isEdge : (parent, node.id) ∈ tree.edges :=
            (climbs_iff tree node.id parent).mpr ⟨node, member, rfl, hangs⟩
          simpa using List.find?_eq_none.mp found _ isEdge
  | some edge =>
      have sameId : edge.2 = node.id := by simpa using List.find?_some found
      have isEdge : (edge.1, node.id) ∈ tree.edges := by
        rw [← sameId]
        exact List.mem_of_find?_eq_some found
      obtain ⟨other, otherMember, otherId, otherHangs⟩ :=
        (climbs_iff tree node.id edge.1).mp isEdge
      obtain rfl : other = node :=
        List.inj_on_of_nodup_map distinct otherMember member otherId
      rw [parentIn, found, Option.map_some, otherHangs]

private theorem node?_behind_nodes (edges : List (Nat × Nat)) :
    node? ((String.join (edges.map edgeLine)).toList ++ "\x7d\n".toList) = none := by
  cases edges with
  | nil => rfl
  | cons edge rest =>
      rw [List.map_cons, String.join_cons, String.toList_append, List.append_assoc]
      exact node?_edgeLine edge _

private theorem nodeLine_length_pos (node : TreeNode) : 0 < (nodeLine node).toList.length := by
  rw [toList_nodeLine]
  exact Nat.succ_pos _

private theorem edgeLine_length_pos (edge : Nat × Nat) : 0 < (edgeLine edge).toList.length := by
  rw [toList_edgeLine]
  exact Nat.succ_pos _

/-- The lines of all nodes stand before those of the edges. -/
theorem toList_dot (tree : ParseTree) :
    tree.dot.toList = "digraph ParseTree \x7b\n".toList ++
      ((String.join (tree.nodes.map nodeLine)).toList ++
        ((String.join (tree.edges.map edgeLine)).toList ++ "\x7d\n".toList)) := by
  have parts (header nodes edges closing : String) :
      (header ++ nodes ++ edges ++ closing).toList =
        header.toList ++ (nodes.toList ++ (edges.toList ++ closing.toList)) := by
    simp only [String.toList_append, List.append_assoc]
  exact parts _ _ _ _

/-- A tree is read back from its DOT text when no two of its nodes have the same number. -/
theorem ofDot?_dot {tree : ParseTree} (distinct : (tree.nodes.map TreeNode.id).Nodup) :
    ofDot? tree.dot = some tree := by
  have readNodes := readAll_join node? nodeLine (fun node => { node with parent := none })
    node?_nodeLine nodeLine_length_pos (node?_behind_nodes tree.edges) tree.nodes
  have noEdge : edge? "\x7d\n".toList = none := rfl
  have readEdges := readAll_join edge? edgeLine id edge?_edgeLine edgeLine_length_pos noEdge
    tree.edges
  have parents : (tree.nodes.map fun node => { node with parent := none }).map
      (fun node => { node with parent := parentIn tree.edges node.id }) = tree.nodes := by
    rw [List.map_map]
    conv_rhs => rw [← List.map_id tree.nodes]
    apply List.map_congr_left
    intro node member
    have hangs := parentIn_edges distinct member
    exact congrArg (TreeNode.mk node.id node.label) hangs
  rw [ofDot?, toList_dot, dropPrefix?_append, Option.bind_eq_bind, Option.bind_some, readNodes]
  simp only [readEdges, List.map_id, if_true, parents]
  rfl

/-- The number of a node is its place in the tree, so no two nodes have the same. -/
theorem ofDot?_dot_ofProgram (program : Program) :
    ofDot? (ofProgram program).dot = some (ofProgram program) := by
  have distinct : ((ofProgram program).nodes.map TreeNode.id).Nodup := by
    rw [ofProgram_ids]
    exact List.nodup_range
  exact ofDot?_dot distinct

/-- The DOT text of a program's parse tree determines the tree.  Each node has a line with its label
between quotes, where the only quote that is not escaped is the closing one, and what stands between
the quotes gives back the label.  The tree can be read from the text: two programs with the same DOT
text have the same parse tree. -/
theorem dot_determines_tree (program : Program) :
    (∃ quoted : TreeNode → List Char,
      (ofProgram program).dot.toList =
        "digraph ParseTree \x7b\n".toList ++
          (((ofProgram program).nodes.flatMap fun node =>
              "    n".toList ++ Decimal.digits node.id ++ " [label=\"".toList ++ quoted node ++
                "\"];\n".toList) ++
            (((ofProgram program).edges.flatMap fun edge =>
                "    n".toList ++ Decimal.digits edge.1 ++ " -> n".toList ++
                  Decimal.digits edge.2 ++ ";\n".toList) ++
              "\x7d\n".toList)) ∧
        ∀ node ∈ (ofProgram program).nodes,
          Quotable (quoted node) ∧ unescape? (quoted node) = some node.label.toList) ∧
      ofDot? (ofProgram program).dot = some (ofProgram program) ∧
      ∀ other : Program, (ofProgram other).dot = (ofProgram program).dot →
        ofProgram other = ofProgram program := by
  refine ⟨⟨fun node => escapeLabel node.label.toList, ?_, ?_⟩, ofDot?_dot_ofProgram program, ?_⟩
  · simp only [← toList_nodeLine, ← toList_edgeLine]
    rw [toList_dot, String.toList_join, List.flatMap_map, String.toList_join, List.flatMap_map]
  · intro node _
    exact ⟨quotable_escapeLabel _, unescape?_escapeLabel _⟩
  · intro other sameText
    apply Option.some.inj
    rw [← ofDot?_dot_ofProgram other, sameText, ofDot?_dot_ofProgram program]

end Reckoner.ParseTree
