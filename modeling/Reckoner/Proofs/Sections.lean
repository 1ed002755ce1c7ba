import Mathlib.Data.List.Forall2
import Reckoner.CommandLine.Response
import Reckoner.Proofs.Grammar
import Reckoner.Proofs.LongestMatch

/-!
Contract: the sections of tokens and of the program, line by line.

A row shows a token behind the number of its line.  The section of the program shows a node as a
block: an opening line, the parts of the node four places further to the right, each with a comma
behind it, and a closing line.  Nothing here mentions a depth, since a block within a block is moved
as a whole.  A name stands between quotes as it is, because no character that a script can have in
a name needs an escape.

Owns: the rows of tokens, blocks, the names that need no escape, and the outline of a program.

Does not own: when a section is shown.
-/

namespace Reckoner

/-! ### Rows of tokens -/

namespace PlacedToken

/-- A token as it stands in a row: its kind and its content. -/
def label : Token → String
  | .number value => "(NUMBER, " ++ value.text ++ ")"
  | .operator operator => "(" ++ operator.keyword ++ ", " ++ operator.keyword ++ ")"
  | .var => "(VAR, VAR)"
  | .print => "(PRINT, PRINT)"
  | .assign => "(ASSIGN, =)"
  | .identifier name => "(ID, " ++ name ++ ")"
  | .newline | .blank => "(SKIP, SKIP)"

/-- The row of a token.  The number of its line takes at least four places. -/
def row (placed : PlacedToken) : String :=
  String.ofList ((toString placed.line).toList.leftpad 4 ' ') ++ "  " ++ label placed.token

private theorem label_eq_text (token : Token) : label token = token.text := by
  cases token <;> rfl

end PlacedToken

theorem Response.tokenSection_eq (tokens : List PlacedToken) :
    tokenSection tokens =
      "Tokens:\n" ++ String.join (tokens.map fun placed => placed.row ++ "\n") ++ "\n" := by
  have sameRow (placed : PlacedToken) :
      String.ofList (List.replicate (4 - (toString placed.line).length) ' ') ++
        toString placed.line ++ "  " ++ placed.token.text ++ "\n" = placed.row ++ "\n" := by
    rw [PlacedToken.row, PlacedToken.label_eq_text, List.leftpad, String.ofList_append,
      String.ofList_toList, String.length_toList]
  simp only [tokenSection, sameRow]

/-! ### Blocks of lines -/

namespace Outline

/-- Lines with a text behind the last one. -/
def endedBy (ending : String) : List String → List String
  | [] => []
  | [line] => [line ++ ending]
  | line :: rest => line :: endedBy ending rest

/-- Lines with a name before the first one. -/
def named (name : String) : List String → List String
  | [] => []
  | line :: rest => (name ++ ": " ++ line) :: rest

/-- Parts between an opening and a closing line. -/
def block (opening closing : String) (parts : List (List String)) : List String :=
  [opening] ++ parts.flatMap (fun part => (endedBy "," part).map ("    " ++ ·)) ++ [closing]

/-- The name of a node and its named fields. -/
def node (name : String) (fields : List (String × List String)) : List String :=
  block (name ++ " \x7b") "\x7d" (fields.map fun field => named field.1 field.2)

/-- Items between brackets, which stand on one line if there is no item. -/
def items : List (List String) → List String
  | [] => ["[]"]
  | first :: rest => block "[" "]" (first :: rest)

end Outline

namespace Dump

open Outline

/-- Lines, each behind a line break and indented. -/
def continued (depth : Nat) (lines : List String) : String :=
  String.join (lines.map fun line => "\n" ++ indentation depth ++ line)

/-- Lines as one text, where all but the first are indented. -/
def layout (depth : Nat) : List String → String
  | [] => ""
  | line :: rest => line ++ continued depth rest

/-- The dump has the given lines, at whatever depth it is laid out. -/
structure HasLines (dump : Dump) (lines : List String) : Prop where
  nonempty : lines ≠ []
  indented_eq : ∀ depth, dump.indented depth = layout depth lines

private theorem continued_cons (depth : Nat) (line : String) (rest : List String) :
    continued depth (line :: rest) = "\n" ++ indentation depth ++ line ++ continued depth rest := by
  simp [continued]

private theorem continued_append (depth : Nat) (first second : List String) :
    continued depth (first ++ second) = continued depth first ++ continued depth second := by
  simp [continued]

private theorem indentation_succ (depth : Nat) :
    indentation (depth + 1) = indentation depth ++ "    " := by
  have blanks : "    " = String.ofList (List.replicate 4 ' ') := rfl
  rw [indentation, indentation, blanks, ← String.ofList_append, List.replicate_append_replicate,
    Nat.mul_succ]

/-- A part of a block is laid out one step further in. -/
theorem continued_part (depth : Nat) {lines : List String} (nonempty : lines ≠ []) :
    continued depth ((endedBy "," lines).map ("    " ++ ·)) =
      "\n" ++ indentation (depth + 1) ++ layout (depth + 1) lines ++ "," := by
  induction lines with
  | nil => exact absurd rfl nonempty
  | cons line rest inductionHypothesis =>
      cases rest with
      | nil =>
          simp only [endedBy, List.map_cons, List.map_nil, continued_cons, layout, indentation_succ,
            String.append_assoc]
          rfl
      | cons next others =>
          have further := inductionHypothesis (List.cons_ne_nil next others)
          rw [endedBy, List.map_cons, continued_cons, further]
          · simp only [layout, continued_cons, indentation_succ, String.append_assoc]
          · exact List.cons_ne_nil next others

private theorem indentedAll_of_hasLines
    (depth : Nat)
    {dumps : List Dump}
    {parts : List (List String)}
    (haveLines : List.Forall₂ HasLines dumps parts) :
    "\n" ++ indentedAll (depth + 1) dumps =
      continued depth (parts.flatMap fun part => (endedBy "," part).map ("    " ++ ·)) ++ "\n" := by
  induction haveLines with
  | nil => rfl
  | @cons dump part dumps parts hasLines others inductionHypothesis =>
      have unfolded : indentedAll (depth + 1) (dump :: dumps) = indentation (depth + 1) ++
          dump.indented (depth + 1) ++ ("," ++ "\n") ++ indentedAll (depth + 1) dumps := rfl
      rw [List.flatMap_cons, continued_append, continued_part depth hasLines.nonempty,
        String.append_assoc, ← inductionHypothesis, unfolded, hasLines.indented_eq]
      simp only [String.append_assoc]

/-- A block is laid out around its parts. -/
theorem layout_block
    (depth : Nat)
    (opening closing : String)
    {dumps : List Dump}
    {parts : List (List String)}
    (haveLines : List.Forall₂ HasLines dumps parts) :
    layout depth (block opening closing parts) =
      opening ++ "\n" ++ indentedAll (depth + 1) dumps ++ indentation depth ++ closing := by
  have behindOpening : opening ++ "\n" ++ indentedAll (depth + 1) dumps =
      opening ++ ("\n" ++ indentedAll (depth + 1) dumps) := String.append_assoc
  have ending : continued depth [closing] = "\n" ++ indentation depth ++ closing := by
    rw [continued_cons]
    exact String.append_empty
  rw [behindOpening, indentedAll_of_hasLines depth haveLines, block, List.append_assoc,
    List.singleton_append, layout, continued_append, ending]
  simp only [String.append_assoc]

private theorem hasLines_atom (text : String) : HasLines (.atom text) [text] where
  nonempty := List.cons_ne_nil text []
  indented_eq := by
    intro depth
    exact String.append_empty.symm

/-- A name only changes the first line. -/
theorem HasLines.field
    {value : Dump}
    {lines : List String}
    (hasLines : HasLines value lines)
    (name : String) :
    HasLines (.field name value) (named name lines) := by
  cases lines with
  | nil => exact absurd rfl hasLines.nonempty
  | cons line rest =>
      refine ⟨List.cons_ne_nil _ _, ?_⟩
      intro depth
      have unfolded :
          (Dump.field name value).indented depth = name ++ ": " ++ value.indented depth := rfl
      rw [unfolded, hasLines.indented_eq, named, layout, layout]
      exact String.append_assoc.symm

section

variable
  {dumps : List Dump}
  {parts : List (List String)}
  (haveLines : List.Forall₂ HasLines dumps parts)
include haveLines

private theorem hasLines_block
    {dump : Dump}
    {opening closing : String}
    (laidOut : ∀ depth, dump.indented depth =
      opening ++ "\n" ++ indentedAll (depth + 1) dumps ++ indentation depth ++ closing) :
    HasLines dump (block opening closing parts) where
  nonempty := List.cons_ne_nil _ _
  indented_eq := by
    intro depth
    rw [laidOut, layout_block depth _ _ haveLines]

private theorem hasLines_tuple (name : String) :
    HasLines (.tuple name dumps) (block (name ++ "(") ")" parts) := by
  have opening : name ++ "(" ++ "\n" = name ++ "(\n" := String.append_assoc
  apply hasLines_block haveLines
  intro depth
  rw [opening]
  rfl

private theorem hasLines_record (name : String) :
    HasLines (.record name dumps) (block (name ++ " \x7b") "\x7d" parts) := by
  have opening : name ++ " \x7b" ++ "\n" = name ++ " \x7b\n" := String.append_assoc
  apply hasLines_block haveLines
  intro depth
  rw [opening]
  rfl

end

/-- A node is a block of its named fields. -/
theorem hasLines_node
    (name : String)
    {dumps : List Dump}
    {fields : List (String × List String)}
    (haveLines :
      List.Forall₂ (fun dump field => HasLines dump (named field.1 field.2)) dumps fields) :
    HasLines (.record name dumps) (node name fields) :=
  hasLines_record (List.forall₂_map_right_iff.mpr haveLines) name

theorem hasLines_list
    {dumps : List Dump}
    {parts : List (List String)}
    (haveLines : List.Forall₂ HasLines dumps parts) :
    HasLines (.list dumps) (items parts) := by
  cases haveLines with
  | nil => exact ⟨List.cons_ne_nil _ _, (hasLines_atom "[]").indented_eq⟩
  | cons hasLines others => exact hasLines_block (.cons hasLines others) fun depth => rfl

private theorem layout_zero (lines : List String) : layout 0 lines = "\n".intercalate lines := by
  induction lines with
  | nil => exact String.intercalate_nil.symm
  | cons line rest inductionHypothesis =>
      cases rest with
      | nil =>
          rw [String.intercalate_singleton]
          exact String.append_empty
      | cons next others =>
          have flush : indentation 0 = "" := rfl
          rw [String.intercalate_cons_cons, ← inductionHypothesis, layout, layout, continued_cons,
            flush, String.append_empty]
          simp only [String.append_assoc]

/-- Without a depth the lines are simply joined. -/
theorem HasLines.indented_zero
    {dump : Dump}
    {lines : List String}
    (hasLines : HasLines dump lines) :
    dump.indented 0 = "\n".intercalate lines := by
  rw [hasLines.indented_eq, layout_zero]

end Dump

/-! ### Names without escapes -/

namespace Quoted

/-- No range of hidden characters touches those between the blank and the delete character. -/
private theorem isHidden_eq_false {c : Char} (low : 0x20 < c.toNat) (high : c.toNat < 0x7f) :
    isHidden c = false := by
  have outside (set : CharRanges)
      (apart : set.ranges.all (fun range => range.2 ≤ 0x20 || 0x7f ≤ range.1) = true) :
      set.contains c = false := by
    rw [CharRanges.contains, List.any_eq_false]
    intro range member
    have rangeApart := List.all_eq_true.mp apart range member
    simp only [Bool.or_eq_true, Bool.and_eq_true, decide_eq_true_eq] at rangeApart ⊢
    omega
  rw [isHidden, outside .unprintable (by decide +kernel),
    outside .defaultIgnorable (by decide +kernel), outside .extendingMark (by decide +kernel)]
  rfl

private theorem escape_of_continuesWord {c : Char} (continues : Lexeme.continuesWord c) :
    escape c = [c] := by
  have visible : 0x20 < c.toNat ∧ c.toNat < 0x7f := by
    rcases (Pattern.continuesWord_iff c).mp continues with (lower | upper | rfl) | digit
    · have bounds : 97 ≤ c.toNat ∧ c.toNat ≤ 122 := lower
      omega
    · have bounds : 65 ≤ c.toNat ∧ c.toNat ≤ 90 := upper
      omega
    · decide
    · have bounds : 48 ≤ c.toNat ∧ c.toNat ≤ 57 := digit
      omega
  unfold escape
  split
  case h_7 => rw [isHidden_eq_false visible.1 visible.2, if_neg Bool.false_ne_true]
  all_goals exact absurd continues (by decide)

/-- A name of letters, digits and underscores is quoted as it is. -/
theorem quote_of_continuesWord
    {name : String}
    (continues : ∀ c ∈ name.toList, Lexeme.continuesWord c) :
    quote name = "\"" ++ name ++ "\"" := by
  have kept : name.toList.flatMap escape = name.toList := by
    rw [List.flatMap_congr fun c member => escape_of_continuesWord (continues c member)]
    exact List.flatMap_singleton' _
  rw [quote, kept, String.ofList_append, String.ofList_append, String.ofList_toList]

end Quoted

/-! ### Programs -/

namespace Outline

/-- A word with only its first letter as a capital. -/
def capitalized (word : String) : String :=
  String.ofList (word.toList.take 1 ++ (word.toList.drop 1).map Char.toLower)

/-- A name between quotes. -/
def quoted (name : String) : List String :=
  ["\"" ++ name ++ "\""]

def number : Number → List String
  | .integer value => block "Integer(" ")" [[toString value.toInt]]
  | .real value =>
      block "Real(" ")" [[String.ofList (RealFormat.text ⟨"NaN", "", 1⟩ value)]]

mutual

def expr : Expr → List String
  | .number value line => node "Number" [("value", number value), ("line", [toString line])]
  | .identifier name line =>
      node "Identifier" [("name", quoted name), ("line", [toString line])]
  | .group inner line => node "Group" [("expr", expr inner), ("line", [toString line])]
  | .operation operator operands line =>
      node "Operation"
        [("op", [capitalized operator.keyword]), ("operands", items (exprs operands)),
          ("line", [toString line])]

def exprs : List Expr → List (List String)
  | [] => []
  | first :: rest => expr first :: exprs rest

end

def statement : Statement → List String
  | .declare name value line =>
      node "Declare" [("name", quoted name), ("expr", expr value), ("line", [toString line])]
  | .assign name value line =>
      node "Assign" [("name", quoted name), ("expr", expr value), ("line", [toString line])]
  | .print value line => node "Print" [("expr", expr value), ("line", [toString line])]

def program (statements : Program) : List String :=
  items (statements.map statement)

/-! #### Dumps and outlines -/

private theorem hasLines_nat (n : Nat) : (Dump.nat n).HasLines [toString n] :=
  Dump.hasLines_atom _

private theorem toString_eq_signedDigits (n : Int) :
    toString n = String.ofList (Decimal.signedDigits n) := by
  have sign : "-" = String.singleton '-' := rfl
  rw [Int.toString_eq_repr, Int.repr_eq_if, Decimal.signedDigits, Decimal.digits]
  by_cases negative : n < 0
  · have magnitude : (-n).toNat = n.natAbs := by omega
    rw [if_neg (Int.not_le.mpr negative), if_pos negative, magnitude, String.ofList_cons,
      Nat.repr_eq_ofList_toDigits, sign]
  · have magnitude : n.toNat = n.natAbs := by omega
    rw [if_pos (Int.not_lt.mp negative), if_neg negative, magnitude, Nat.repr_eq_ofList_toDigits]

private theorem capitalized_keyword (operator : Operator) :
    capitalized operator.keyword = operator.dumpName := by
  rcases operator with step | function
  · cases step <;> decide
  · cases function <;> decide

private theorem hasLines_number (value : Number) : value.dump.HasLines (number value) := by
  cases value with
  | integer value =>
      rw [number, toString_eq_signedDigits]
      exact Dump.hasLines_tuple (.cons (Dump.hasLines_atom _) .nil) "Integer"
  | real value => exact Dump.hasLines_tuple (.cons (Dump.hasLines_atom _) .nil) "Real"

/-- The last field of every node. -/
theorem hasLines_line (line : Nat) : (Dump.line line).HasLines (named "line" [toString line]) :=
  (hasLines_nat line).field "line"

section

variable (slots others : List Grammar.Slot)

/-- The identifiers of a written form are made of letters, digits and underscores. -/
def WordsOnly : Prop :=
  ∀ name, .identifier name ∈ slots.map Grammar.Slot.token →
    ∀ c ∈ name.toList, Lexeme.continuesWord c

private theorem wordsOnly_append_iff :
    WordsOnly (slots ++ others) ↔ WordsOnly slots ∧ WordsOnly others := by
  simp only [WordsOnly, List.map_append, List.mem_append, or_imp, forall_and]

private theorem wordsOnly_cons_iff (slot : Grammar.Slot) :
    WordsOnly (slot :: slots) ↔ WordsOnly [slot] ∧ WordsOnly slots :=
  wordsOnly_append_iff [slot] slots

end

private theorem hasLines_name
    {name : String}
    {line? : Option Nat}
    (words : WordsOnly [⟨.identifier name, line?⟩]) :
    (Dump.field "name" (.text name)).HasLines (named "name" (quoted name)) := by
  have asItIs := Quoted.quote_of_continuesWord (words name List.mem_cons_self)
  rw [quoted, ← asItIs]
  exact (Dump.hasLines_atom _).field "name"

mutual

/-- An expression has the lines of its outline, by induction on the tree. -/
theorem hasLines_expr :
    ∀ tree : Expr, WordsOnly (Grammar.exprSlots tree) → tree.dump.HasLines (expr tree)
  | .number value line, _ =>
      Dump.hasLines_node "Number"
        (.cons ((hasLines_number value).field "value") (.cons (hasLines_line line) .nil))
  | .identifier name line, words =>
      Dump.hasLines_node "Identifier" (.cons (hasLines_name words) (.cons (hasLines_line line) .nil))
  | .group inner line, words =>
      Dump.hasLines_node "Group"
        (.cons ((hasLines_expr inner words).field "expr") (.cons (hasLines_line line) .nil))
  | .operation operator operands line, words => by
      have hasName : operator.dump.HasLines [capitalized operator.keyword] := by
        rw [capitalized_keyword]
        exact Dump.hasLines_atom _
      have operandWords := ((wordsOnly_cons_iff _ _).mp words).2
      have hasOperands := Dump.hasLines_list (hasLines_exprs operands operandWords)
      exact Dump.hasLines_node "Operation"
        (.cons (hasName.field "op")
          (.cons (hasOperands.field "operands") (.cons (hasLines_line line) .nil)))

private theorem hasLines_exprs :
    ∀ trees : List Expr, WordsOnly (Grammar.operandSlots trees) →
      List.Forall₂ Dump.HasLines (Expr.dumpAll trees) (exprs trees)
  | [], _ => .nil
  | first :: rest, words => by
      obtain ⟨firstWords, restWords⟩ := (wordsOnly_append_iff _ _).mp words
      exact .cons (hasLines_expr first firstWords) (hasLines_exprs rest restWords)

end

theorem hasLines_statement
    (instruction : Statement)
    (words : WordsOnly (Grammar.statementSlots instruction)) :
    instruction.dump.HasLines (statement instruction) := by
  cases instruction with
  | declare name value line =>
      obtain ⟨-, afterKeyword⟩ := (wordsOnly_cons_iff _ _).mp words
      obtain ⟨nameWord, afterName⟩ := (wordsOnly_cons_iff _ _).mp afterKeyword
      obtain ⟨-, valueWords⟩ := (wordsOnly_cons_iff _ _).mp afterName
      exact Dump.hasLines_node "Declare" (.cons (hasLines_name nameWord)
        (.cons ((hasLines_expr value valueWords).field "expr") (.cons (hasLines_line line) .nil)))
  | assign name value line =>
      obtain ⟨nameWord, afterName⟩ := (wordsOnly_cons_iff _ _).mp words
      obtain ⟨-, valueWords⟩ := (wordsOnly_cons_iff _ _).mp afterName
      exact Dump.hasLines_node "Assign" (.cons (hasLines_name nameWord)
        (.cons ((hasLines_expr value valueWords).field "expr") (.cons (hasLines_line line) .nil)))
  | print value line =>
      obtain ⟨-, valueWords⟩ := (wordsOnly_cons_iff _ _).mp words
      exact Dump.hasLines_node "Print"
        (.cons ((hasLines_expr value valueWords).field "expr") (.cons (hasLines_line line) .nil))

/-- A program has the lines of its outline. -/
theorem hasLines_program
    {statements : Program}
    (words : WordsOnly (Grammar.programSlots statements)) :
    (Program.dump statements).HasLines (program statements) := by
  apply Dump.hasLines_list
  rw [List.forall₂_map_left_iff, List.forall₂_map_right_iff, List.forall₂_same]
  intro instruction member
  apply hasLines_statement
  intro name inStatement
  apply words name
  rw [Grammar.programSlots, List.map_flatMap]
  exact List.mem_flatMap.mpr ⟨instruction, member, inStatement⟩

end Outline

/-- The section of a program that was read from a script. -/
theorem Response.dumpSection_eq
    {script : String}
    {tokens : List PlacedToken}
    {program : Program}
    (scanned : Token.scan script = .ok tokens)
    (read : Parse.program tokens = .ok program) :
    dumpSection program =
      "AST:\n" ++ "\n".intercalate (Outline.program program) ++ "\n\n" := by
  have words : Outline.WordsOnly (Grammar.programSlots program) := by
    obtain ⟨-, written⟩ := (Grammar.program_eq_ok_iff_written _ _).mp read
    intro name
    rw [← ((Grammar.written_all_iff _ _).mp written).1]
    exact Token.continuesWord_of_scan scanned
  rw [dumpSection, (Outline.hasLines_program words).indented_zero]

end Reckoner
