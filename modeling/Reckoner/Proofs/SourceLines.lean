import Reckoner.Proofs.Causes
import Reckoner.Proofs.DeclaredVariables
import Reckoner.Proofs.Diagnosis
import Reckoner.Proofs.LongestMatch

/-!
Contract: every line that a run reports is a line of the script.

The scanner counts line breaks, so tokens stand on lines of the text, in order.  The reader gives
each node the line of one of its own tokens, and each of its errors the line of a token that it has
seen.  The check and the run report lines of nodes only.  Since tokens are in order, a variable is
declared a first time on no later line than a second time.

Owns: the line of a failure, the tokens that belong to a node, the order of lines from tokens to
declarations, and the bounds of every reported line.

Does not own: which of its tokens a node takes its line from.
-/

namespace Reckoner

/-! ### Lines of failures -/

def ScanError.line : ScanError → Nat
  | .unexpectedCharacter _ line => line

def GrammarError.line : GrammarError → Nat
  | .unexpectedToken _ line | .expectedIdentifier _ line | .expectedAssign _ _ line
  | .unexpectedTokenInTerm _ line | .arityViolation _ _ _ line | .unexpectedEnd line => line

/-- The line that a scope error names.  The line of the first declaration is not counted. -/
def ScopeError.line : ScopeError → Nat
  | .alreadyDeclared _ line _ | .notDeclared _ line => line

def EvalError.line : EvalError → Nat
  | .undefinedVariable _ line | .invalidOperand _ _ line | .missingOperand _ line
  | .divisionByZero line => line

def Failure.line : Failure → Nat
  | .scan error => error.line
  | .grammar error => error.line
  | .scope error => error.line
  | .eval error => error.line

/-- Every message opens with the line of its failure. -/
theorem Failure.exists_message (failure : Failure) :
    ∃ text, failure.message = messageOnLine failure.line text := by
  cases failure with
  | scan error | grammar error | scope error | eval error => cases error <;> exact ⟨_, rfl⟩

/-! ### Lines of tokens -/

/-- Nothing is lost in a cut. -/
theorem Pattern.Cut.text
    {source remainder : List Char}
    {pieces : List Pattern.Piece}
    (isCut : Pattern.Cut source pieces remainder) :
    pieces.flatMap Pattern.Piece.text ++ remainder = source := by
  induction isCut with
  | stop noMatch => rfl
  | piece longest others inductionHypothesis =>
      rw [List.flatMap_cons, List.append_assoc, inductionHypothesis]

namespace Lexeme

private theorem le_lineAfter (lexeme : Lexeme) (line : Nat) : line ≤ lexeme.lineAfter line := by
  cases lexeme with
  | newline => exact Nat.le_succ line
  | numeral | word | equals | blanks => exact Nat.le_refl line

private theorem le_foldl_lineAfter (lexemes : List Lexeme) (line : Nat) :
    line ≤ lexemes.foldl lineAfter line := by
  induction lexemes generalizing line with
  | nil => exact Nat.le_refl line
  | cons lexeme rest inductionHypothesis =>
      exact Nat.le_trans (lexeme.le_lineAfter line) (inductionHypothesis (lexeme.lineAfter line))

/-- One more lexeme puts at most one token in front of the others, on the line where it starts. -/
theorem tokensFrom_cons (line : Nat) (lexeme : Lexeme) (rest : List Lexeme) :
    tokensFrom line (lexeme :: rest) =
      (lexeme.token?.map (PlacedToken.mk · line)).toList ++
        tokensFrom (lexeme.lineAfter line) rest := by
  rw [tokensFrom]
  cases lexeme.token? <;> rfl

private theorem line_of_mem_tokensFrom
    {lexemes : List Lexeme}
    {line : Nat}
    {placed : PlacedToken}
    (member : placed ∈ tokensFrom line lexemes) :
    line ≤ placed.line ∧ placed.line ≤ lexemes.foldl lineAfter line := by
  induction lexemes generalizing line with
  | nil => cases member
  | cons lexeme rest inductionHypothesis =>
      have starts := lexeme.le_lineAfter line
      have ends := le_foldl_lineAfter rest (lexeme.lineAfter line)
      rw [tokensFrom_cons, List.mem_append] at member
      rw [List.foldl_cons]
      rcases member with isFirst | inRest
      · have onLine : placed.line = line := by
          rw [Option.mem_toList, Option.map_eq_some_iff] at isFirst
          obtain ⟨token, -, rfl⟩ := isFirst
          rfl
        omega
      · have bounds := inductionHypothesis inRest
        omega

private theorem tokensFrom_lines_sorted (lexemes : List Lexeme) (line : Nat) :
    ((tokensFrom line lexemes).map PlacedToken.line).Pairwise (· ≤ ·) := by
  induction lexemes generalizing line with
  | nil => exact .nil
  | cons lexeme rest inductionHypothesis =>
      rw [tokensFrom_cons]
      cases lexeme.token? with
      | none => exact inductionHypothesis _
      | some token =>
          refine List.pairwise_cons.mpr ⟨?_, inductionHypothesis _⟩
          intro later isLater
          obtain ⟨placed, member, rfl⟩ := List.mem_map.mp isLater
          have starts := lexeme.le_lineAfter line
          have bounds := line_of_mem_tokensFrom member
          exact Nat.le_trans starts bounds.1

/-- The cut of a text reaches no line behind the last one. -/
theorem foldl_lineAfter_cut_le (source : List Char) :
    (cut source).1.foldl lineAfter 1 ≤ 1 + source.count '\n' := by
  have reached : (cut source).1.foldl lineAfter 1 =
      Pattern.lineBehind (((cut source).1.map piece).flatMap Pattern.Piece.text) :=
    foldl_lineAfter_eq (wellFormed_of_mem_cut source) []
  -- What the cut leaves over may hold line breaks as well, hence no equality.
  have counted := congrArg (List.count '\n') (cut_pieces source).text
  rw [List.count_append] at counted
  rw [reached, Pattern.lineBehind]
  omega

end Lexeme

namespace Token

/-- Tokens stand on lines of the source. -/
theorem line_of_scan
    {source : String}
    {tokens : List PlacedToken}
    (scanned : scan source = .ok tokens)
    {line : Nat}
    (member : line ∈ tokens.map PlacedToken.line) :
    1 ≤ line ∧ line ≤ 1 + source.toList.count '\n' := by
  obtain ⟨placed, isPlaced, rfl⟩ := List.mem_map.mp member
  rw [tokensFrom_of_scan scanned] at isPlaced
  have bounds := Lexeme.line_of_mem_tokensFrom isPlaced
  have reached := Lexeme.foldl_lineAfter_cut_le source.toList
  exact ⟨bounds.1, Nat.le_trans bounds.2 reached⟩

/-- Tokens come in the order of their lines. -/
theorem lines_sorted_of_scan
    {source : String}
    {tokens : List PlacedToken}
    (scanned : scan source = .ok tokens) :
    (tokens.map PlacedToken.line).Pairwise (· ≤ ·) := by
  rw [tokensFrom_of_scan scanned]
  exact Lexeme.tokensFrom_lines_sorted _ 1

theorem line_of_scan_error
    {source : String}
    {error : ScanError}
    (failed : scan source = .error error) :
    1 ≤ error.line ∧ error.line ≤ 1 + source.toList.count '\n' := by
  have onLine : error.line = (Lexeme.cut source.toList).1.foldl Lexeme.lineAfter 1 := by
    unfold scan scanCharacters at failed
    cases remainder : (Lexeme.cut source.toList).2 with
    | nil =>
        simp only [remainder] at failed
        cases failed
    | cons character following =>
        simp only [remainder] at failed
        rw [← Except.error.inj failed]
        rfl
  have starts := Lexeme.le_foldl_lineAfter (Lexeme.cut source.toList).1 1
  have reached := Lexeme.foldl_lineAfter_cut_le source.toList
  rw [onLine]
  exact ⟨starts, reached⟩

end Token

/-! ### Lines that nodes claim -/

/-- The tokens that stand before the expression of a statement. -/
def Statement.opening : Statement → List Token
  | .declare name _ _ => [.var, .identifier name, .assign]
  | .assign name _ _ => [.identifier name, .assign]
  | .print .. => [.print]

namespace Grammar

/-- The lines that nodes claim, in the order of their tokens. -/
def claimedLines (slots : List Slot) : List Nat :=
  slots.filterMap Slot.line?

private theorem claimedLines_append (front back : List Slot) :
    claimedLines (front ++ back) = claimedLines front ++ claimedLines back :=
  List.filterMap_append

/-- A claimed line is the line of the token in its slot, so the claims of a written form are some of
the lines of its tokens, in the same order. -/
theorem claimedLines_sublist
    {slots : List Slot}
    {tokens : List PlacedToken}
    (written : Written slots tokens []) :
    (claimedLines slots).Sublist (tokens.map PlacedToken.line) := by
  induction slots generalizing tokens with
  | nil => exact List.nil_sublist _
  | cons slot slots inductionHypothesis =>
      obtain ⟨placed, following, rfl, fills, remaining⟩ := (written_cons _ _ _ _).mp written
      have rest := inductionHypothesis remaining
      unfold claimedLines at rest ⊢
      cases claimed : slot.line? with
      | none =>
          rw [List.filterMap_cons_none claimed]
          exact rest.cons placed.line
      | some line =>
          have onLine : placed.line = line := fills.2 line claimed
          rw [List.filterMap_cons_some claimed, List.map_cons, onLine]
          exact rest.cons_cons line

/-- The tokens before the expression of a statement claim its line, and no other. -/
theorem exists_openingSlots (statement : Statement) :
    ∃ slots, statementSlots statement = slots ++ exprSlots statement.value ∧
      slots.map Slot.token = statement.opening ∧ claimedLines slots = [statement.line] := by
  cases statement with
  | declare name value line => exact ⟨[_, _, _], rfl, rfl, rfl⟩
  | assign name value line => exact ⟨[_, _], rfl, rfl, rfl⟩
  | print value line => exact ⟨[_], rfl, rfl, rfl⟩

private theorem claimedLines_statementSlots (statement : Statement) :
    claimedLines (statementSlots statement) =
      statement.line :: claimedLines (exprSlots statement.value) := by
  obtain ⟨slots, split, -, claimed⟩ := exists_openingSlots statement
  rw [split, claimedLines_append, claimed]
  rfl

private theorem claimedLines_programSlots (program : Program) :
    claimedLines (programSlots program) =
      program.flatMap fun statement =>
        statement.line :: claimedLines (exprSlots statement.value) := by
  unfold claimedLines programSlots
  rw [List.filterMap_flatMap]
  congr 1
  funext statement
  exact claimedLines_statementSlots statement

private theorem statement_lines_sublist (program : Program) :
    (program.map Statement.line).Sublist (claimedLines (programSlots program)) := by
  rw [claimedLines_programSlots]
  induction program with
  | nil => exact List.nil_sublist _
  | cons first rest inductionHypothesis =>
      have behind := inductionHypothesis.trans
        (List.sublist_append_right (claimedLines (exprSlots first.value)) _)
      exact behind.cons_cons first.line

private theorem line_mem_of_term
    {expr node : Expr}
    (term : expr.isTerm)
    (member : node ∈ expr.nodes) :
    node.line ∈ claimedLines (exprSlots expr) := by
  cases expr with
  | number value line | identifier name line =>
      rw [List.mem_singleton.mp member]
      exact List.mem_cons_self
  | group inner line | operation operator operands line => cases term

private theorem line_mem_of_operand
    {operands : List Expr}
    (terms : operands.all Expr.isTerm)
    {node : Expr}
    (member : node ∈ Expr.nodesOfAll operands) :
    node.line ∈ claimedLines (operandSlots operands) := by
  induction operands with
  | nil => cases member
  | cons operand rest inductionHypothesis =>
      rw [List.all_cons, Bool.and_eq_true] at terms
      rw [operandSlots, claimedLines_append, List.mem_append]
      rcases List.mem_append.mp member with inOperand | inRest
      · exact .inl (line_mem_of_term terms.1 inOperand)
      · exact .inr (inductionHypothesis terms.2 inRest)

/-- In an expression of a script every node claims its line.  A group would not. -/
theorem line_mem_of_flat
    {expr node : Expr}
    (flat : expr.isFlat)
    (member : node ∈ expr.nodes) :
    node.line ∈ claimedLines (exprSlots expr) := by
  cases expr with
  | number value line | identifier name line => exact line_mem_of_term rfl member
  | group inner line => cases flat
  | operation operator operands line =>
      rw [Expr.isFlat, Bool.and_eq_true] at flat
      rcases List.mem_cons.mp member with rfl | within
      · exact List.mem_cons_self
      · exact List.mem_cons_of_mem line (line_mem_of_operand flat.1 within)

section

variable {tokens : List PlacedToken} {program : Program}
  (read : Parse.program tokens = .ok program)
include read

private theorem claimedLines_sublist_of_program :
    (claimedLines (programSlots program)).Sublist (tokens.map PlacedToken.line) :=
  claimedLines_sublist ((program_eq_ok_iff_written _ _).mp read).2

/-- Every statement stands on the line of a token. -/
theorem line_mem_of_statement {statement : Statement} (inProgram : statement ∈ program) :
    statement.line ∈ tokens.map PlacedToken.line := by
  have claimed := (statement_lines_sublist program).subset (List.mem_map_of_mem inProgram)
  exact (claimedLines_sublist_of_program read).subset claimed

/-- Every node stands on the line of a token. -/
theorem line_mem_of_node
    {statement : Statement}
    (inProgram : statement ∈ program)
    {node : Expr}
    (member : node ∈ statement.value.nodes) :
    node.line ∈ tokens.map PlacedToken.line := by
  have canonical := ((program_eq_ok_iff_written _ _).mp read).1
  have inStatement := line_mem_of_flat (canonical.flat statement inProgram) member
  have claimed : node.line ∈ claimedLines (programSlots program) := by
    rw [claimedLines_programSlots, List.mem_flatMap]
    exact ⟨statement, inProgram, List.mem_cons_of_mem _ inStatement⟩
  exact (claimedLines_sublist_of_program read).subset claimed

/-- Statements are in the order of their lines when the tokens are. -/
theorem statement_lines_sorted
    (sorted : (tokens.map PlacedToken.line).Pairwise (· ≤ ·)) :
    (program.map Statement.line).Pairwise (· ≤ ·) :=
  sorted.sublist ((statement_lines_sublist program).trans (claimedLines_sublist_of_program read))

end

end Grammar

/-! ### Tokens of nodes -/

/-- The tokens make up an expression, and each of its nodes stands on the line of one of its own
tokens. -/
inductive Expr.OnOwnLines : Expr → List PlacedToken → Prop where
  | number {value : Number} {line : Nat} {tokens : List PlacedToken}
      (written : tokens.map PlacedToken.token = [.number value])
      (onLine : line ∈ tokens.map PlacedToken.line) :
      OnOwnLines (.number value line) tokens
  | identifier {name : String} {line : Nat} {tokens : List PlacedToken}
      (written : tokens.map PlacedToken.token = [.identifier name])
      (onLine : line ∈ tokens.map PlacedToken.line) :
      OnOwnLines (.identifier name line) tokens
  | group {inner : Expr} {line : Nat} {tokens : List PlacedToken}
      (within : inner.OnOwnLines tokens)
      (onLine : line ∈ tokens.map PlacedToken.line) :
      OnOwnLines (.group inner line) tokens
  | operation {operator : Operator} {operands : List Expr} {line : Nat}
      {keyword : PlacedToken} {parts : List (List PlacedToken)}
      (written : keyword.token = .operator operator)
      (within : List.Forall₂ OnOwnLines operands parts)
      (onLine : line ∈ (keyword :: parts.flatten).map PlacedToken.line) :
      OnOwnLines (.operation operator operands line) (keyword :: parts.flatten)

/-- The tokens make up a statement, and it stands on the line of one of them, as do its nodes. -/
structure Statement.OnOwnLines (statement : Statement) (tokens : List PlacedToken) : Prop where
  onLine : statement.line ∈ tokens.map PlacedToken.line
  parts : ∃ before own,
    tokens = before ++ own ∧ before.map PlacedToken.token = statement.opening ∧
    statement.value.OnOwnLines own

namespace Grammar

private theorem operandSlots_eq_flatMap (operands : List Expr) :
    operandSlots operands = operands.flatMap exprSlots := by
  induction operands with
  | nil => rfl
  | cons operand rest inductionHypothesis =>
      rw [operandSlots, inductionHypothesis, List.flatMap_cons]

/-- Tokens that write one thing after the other fall into parts that write one thing each. -/
theorem exists_parts_of_written
    {α : Type}
    {slots : α → List Slot}
    {items : List α}
    {tokens : List PlacedToken}
    (written : Written (items.flatMap slots) tokens []) :
    ∃ parts, tokens = parts.flatten ∧
      List.Forall₂ (fun item part => Written (slots item) part []) items parts := by
  induction items generalizing tokens with
  | nil => exact ⟨[], written, .nil⟩
  | cons item rest inductionHypothesis =>
      rw [List.flatMap_cons, written_append] at written
      obtain ⟨middle, writtenFirst, writtenRest⟩ := written
      obtain ⟨front, rfl, complete⟩ := written_split writtenFirst
      obtain ⟨parts, rfl, writtenParts⟩ := inductionHypothesis writtenRest
      exact ⟨front :: parts, rfl, .cons complete writtenParts⟩

private theorem onOwnLines_of_term
    {expr : Expr}
    (term : expr.isTerm)
    {tokens : List PlacedToken}
    (written : Written (exprSlots expr) tokens []) :
    expr.OnOwnLines tokens := by
  rw [← List.append_nil (exprSlots expr), written_term_iff term] at written
  obtain ⟨⟨token, line⟩, following, rfl, read, rfl⟩ := written
  cases token with
  | number value =>
      obtain rfl : Expr.number value line = expr := Option.some.inj read
      exact .number rfl List.mem_cons_self
  | identifier name =>
      obtain rfl : Expr.identifier name line = expr := Option.some.inj read
      exact .identifier rfl List.mem_cons_self
  | operator operator => cases read
  | var | print | assign | newline | blank => cases read

private theorem onOwnLines_of_flat
    {expr : Expr}
    (flat : expr.isFlat)
    {tokens : List PlacedToken}
    (written : Written (exprSlots expr) tokens []) :
    expr.OnOwnLines tokens := by
  cases expr with
  | number value line | identifier name line => exact onOwnLines_of_term rfl written
  | group inner line => cases flat
  | operation operator operands line =>
      rw [Expr.isFlat, Bool.and_eq_true] at flat
      obtain ⟨keyword, following, rfl, fills, writtenOperands⟩ :=
        (written_cons _ _ _ _).mp written
      rw [operandSlots_eq_flatMap] at writtenOperands
      obtain ⟨parts, rfl, writtenParts⟩ := exists_parts_of_written writtenOperands
      have terms := List.all_eq_true.mp flat.1
      have writtenTerms := (List.forall₂_and_left operands parts).mpr ⟨terms, writtenParts⟩
      have onLine : keyword.line = line := fills.2 line rfl
      refine .operation fills.1 (writtenTerms.imp ?_) (List.mem_cons.mpr (.inl onLine.symm))
      intro operand part both
      exact onOwnLines_of_term both.1 both.2

private theorem onOwnLines_of_statement
    {statement : Statement}
    (flat : statement.value.isFlat)
    {tokens : List PlacedToken}
    (written : Written (statementSlots statement) tokens []) :
    statement.OnOwnLines tokens := by
  have claimed : statement.line ∈ claimedLines (statementSlots statement) := by
    rw [claimedLines_statementSlots]
    exact List.mem_cons_self
  refine ⟨(claimedLines_sublist written).subset claimed, ?_⟩
  obtain ⟨slots, split, spelled, -⟩ := exists_openingSlots statement
  rw [split, written_append] at written
  obtain ⟨own, writtenOpening, writtenValue⟩ := written
  obtain ⟨before, rfl, complete⟩ := written_split writtenOpening
  refine ⟨before, own, rfl, ?_, onOwnLines_of_flat flat writtenValue⟩
  rw [((written_all_iff _ _).mp complete).1, spelled]

/-- The tokens of a program fall into those of its statements. -/
theorem exists_parts_of_program
    {tokens : List PlacedToken}
    {program : Program}
    (read : Parse.program tokens = .ok program) :
    ∃ parts, tokens = parts.flatten ∧ List.Forall₂ Statement.OnOwnLines program parts := by
  obtain ⟨canonical, written⟩ := (program_eq_ok_iff_written _ _).mp read
  obtain ⟨parts, split, writtenParts⟩ := exists_parts_of_written written
  have flatParts := (List.forall₂_and_left program parts).mpr ⟨canonical.flat, writtenParts⟩
  refine ⟨parts, split, flatParts.imp ?_⟩
  intro statement part both
  exact onOwnLines_of_statement both.1 both.2

/-! ### Lines of grammar errors -/

section

variable {line : Nat} {tokens left : List PlacedToken} {error : GrammarError}

/-- An expression that cannot be read is blamed on the line of a token, or on the line that was
handed down for the end of the tokens. -/
theorem line_of_expression_error
    (failed : Parse.expression line tokens = (.error error, left)) :
    error.line ∈ line :: tokens.map PlacedToken.line := by
  rcases expression_cases line tokens with
    ⟨rfl, outcome⟩ | ⟨operator, operatorLine, following, rfl, outcome⟩ |
    ⟨placed, expr, following, rfl, readTerm, outcome⟩ | ⟨placed, following, rfl, -, -, outcome⟩
  · rw [outcome] at failed
    cases failed
    exact List.mem_cons_self
  · by_cases accepted : operator.arity.accepts (Parse.operands following).1.length
    · rw [outcome, operation_of_accepts _ _ accepted] at failed
      cases failed
    · rw [outcome, operation_of_not_accepts _ _ accepted] at failed
      cases failed
      exact List.mem_cons_of_mem _ List.mem_cons_self
  · rw [outcome] at failed
    cases failed
  · rw [outcome] at failed
    cases failed
    exact List.mem_cons_of_mem _ List.mem_cons_self

private theorem line_of_definition_error
    {name : String}
    (failed : Parse.definition name line tokens = (.error error, left)) :
    error.line ∈ line :: tokens.map PlacedToken.line := by
  fun_cases Parse.definition name line tokens with
  | case1 assignLine following =>
      have blamed := line_of_expression_error failed
      exact List.cons_subset_cons line (List.subset_cons_self assignLine _) blamed
  | case2 found foundLine following noAssign =>
      rw [Parse.definition.eq_2 name line found foundLine following noAssign] at failed
      cases failed
      exact List.mem_cons_of_mem _ List.mem_cons_self
  | case3 =>
      cases failed
      exact List.mem_cons_self

/-- A statement hands down the line of its first token, so no line is made up. -/
theorem line_of_statement_error
    (nonempty : tokens ≠ [])
    (failed : Parse.statement tokens = (.error error, left)) :
    error.line ∈ tokens.map PlacedToken.line := by
  fun_cases Parse.statement tokens with
  | case1 line name nameLine following =>
      have blamed := line_of_definition_error (Parsed.map_eq_error failed)
      exact List.cons_subset_cons line (List.subset_cons_self nameLine _) blamed
  | case2 line found foundLine following noName =>
      rw [Parse.statement.eq_2 line found foundLine following noName] at failed
      cases failed
      exact List.mem_cons_of_mem _ List.mem_cons_self
  | case3 line =>
      cases failed
      exact List.mem_cons_self
  | case4 line following => exact line_of_expression_error (Parsed.map_eq_error failed)
  | case5 name line following => exact line_of_definition_error (Parsed.map_eq_error failed)
  | case6 token line following noDeclaration noFound noEnd noPrint noName =>
      have noVar : token ≠ .var := by
        cases following with
        | nil => exact noEnd rfl
        | cons found rest => exact noFound found.token found.line rest rfl
      rw [statement_of_other noVar noPrint noName] at failed
      cases failed
      exact List.mem_cons_self
  | case7 => exact absurd rfl nonempty

/-- An error of the reader names the line of one of the tokens. -/
theorem line_of_program_error (failed : Parse.program tokens = .error error) :
    error.line ∈ tokens.map PlacedToken.line := by
  -- Statements are read as long as tokens are left, so none is ever read from no tokens.
  induction tokens using Parse.program.induct with
  | case1 tokens empty =>
      rw [List.isEmpty_iff.mp empty, program_nil] at failed
      cases failed
  | case2 tokens nonempty found left outcome =>
      rw [List.isEmpty_iff] at nonempty
      rw [program_of_statement_error nonempty outcome] at failed
      cases failed
      exact line_of_statement_error nonempty outcome
  | case3 tokens nonempty first rest read inductionHypothesis =>
      obtain ⟨front, rfl, complete, mayFollow⟩ := complete_of_statement read
      have failedRest := complete.program_eq_error_of_append mayFollow failed
      rw [List.map_append]
      exact List.mem_append_right _ (inductionHypothesis failedRest)

end

end Grammar

/-! ### Lines of scope errors -/

namespace Declarations

variable {known later : Declarations} {program : Program}

/-- A program that does not pass the check has a first illegal statement. -/
theorem exists_illegal_of_check_error
    {error : ScopeError}
    (failed : (known.check program).1 = .error error) :
    ∃ before statement after reached,
      program = before ++ statement :: after ∧
      known.check before = (.ok (), reached) ∧
      reached.checkStatement statement = .error error := by
  induction program generalizing known with
  | nil => cases failed
  | cons statement rest inductionHypothesis =>
      rw [check] at failed
      cases legal : known.checkStatement statement with
      | error found =>
          rw [legal] at failed
          have same : found = error := Except.error.inj failed
          refine ⟨[], statement, rest, known, rfl, rfl, ?_⟩
          rw [legal, same]
      | ok extended =>
          rw [legal] at failed
          obtain ⟨before, illegal, after, reached, rfl, checked, refused⟩ :=
            inductionHypothesis failed
          refine ⟨statement :: before, illegal, after, reached, rfl, ?_, refused⟩
          exact (check_cons_eq_ok_iff _ _ _ _).mpr ⟨extended, legal, checked⟩

private theorem find?_of_checkStatement
    {statement : Statement}
    {name : String}
    {line : Nat}
    (legal : known.checkStatement statement = .ok later)
    (found : later.find? name = some line) :
    known.find? name = some line ∨ statement.line = line := by
  rw [checkStatement_eq_ok_iff] at legal
  cases statement with
  | declare target value declaredLine =>
      obtain ⟨-, rfl⟩ := legal
      rw [NameMap.find?_insert] at found
      split at found
      · exact .inr (Option.some.inj found)
      · exact .inl found
  | assign target value assignedLine =>
      obtain ⟨-, rfl⟩ := legal
      exact .inl found
  | print value printedLine =>
      obtain rfl := legal
      exact .inl found

/-- What the check records are lines of statements that it has seen. -/
theorem find?_of_check
    {name : String}
    {line : Nat}
    (checked : known.check program = (.ok (), later))
    (found : later.find? name = some line) :
    known.find? name = some line ∨ line ∈ program.map Statement.line := by
  induction program generalizing known with
  | nil =>
      obtain rfl : known = later := (Prod.mk.inj checked).2
      exact .inl found
  | cons statement rest inductionHypothesis =>
      obtain ⟨extended, legal, checkedRest⟩ := (check_cons_eq_ok_iff _ _ _ _).mp checked
      rcases inductionHypothesis checkedRest with recorded | inRest
      · rcases find?_of_checkStatement legal recorded with earlier | here
        · exact .inl earlier
        · exact .inr (List.mem_cons.mpr (.inl here.symm))
      · exact .inr (List.mem_cons_of_mem _ inRest)

/-- The line of an illegal statement is reported, and with it the line of an earlier one. -/
theorem line_of_checkStatement_error
    {statement : Statement}
    {error : ScopeError}
    (refused : known.checkStatement statement = .error error) :
    error.line = statement.line ∧
    ∀ name line firstLine, error = .alreadyDeclared name line firstLine →
      known.find? name = some firstLine := by
  cases statement with
  | declare target value declaredLine =>
      unfold checkStatement at refused
      cases found : known.find? target with
      | none => simp only [found, reduceCtorEq] at refused
      | some recorded =>
          simp only [found] at refused
          cases refused
          refine ⟨rfl, ?_⟩
          rintro name line firstLine ⟨⟩
          exact found
  | assign target value assignedLine =>
      by_cases declared : known.contains target
      · rw [checkStatement, if_pos declared] at refused
        cases refused
      · rw [checkStatement, if_neg declared] at refused
        cases refused
        refine ⟨rfl, ?_⟩
        rintro name line firstLine ⟨⟩
  | print value printedLine => cases refused

/-- When the check starts without declarations, the line of an error is that of a statement, and
the line of a first declaration is that of a statement before it. -/
theorem lines_of_check_error
    {error : ScopeError}
    (failed : (check .empty program).1 = .error error) :
    ∃ before statement after,
      program = before ++ statement :: after ∧ error.line = statement.line ∧
      ∀ name line firstLine, error = .alreadyDeclared name line firstLine →
        firstLine ∈ before.map Statement.line := by
  obtain ⟨before, statement, after, reached, split, checked, refused⟩ :=
    exists_illegal_of_check_error failed
  have blamed := line_of_checkStatement_error refused
  refine ⟨before, statement, after, split, blamed.1, ?_⟩
  intro name line firstLine repeated
  have recorded := blamed.2 name line firstLine repeated
  rcases find?_of_check checked recorded with impossible | inBefore
  · cases impossible
  · exact inBefore

end Declarations

/-! ### Lines of evaluation errors -/

private theorem Raises.line_eq
    {σ : Type}
    {emitter : Emitter σ}
    {environment : NameMap Number}
    {node : Expr}
    {error : EvalError}
    (raises : Raises emitter environment node error) :
    error.line = node.line := by
  cases raises <;> rfl

/-- An execution that fails reports the line of a node. -/
theorem Machine.line_of_executeAll_error
    {σ : Type}
    {emitter : Emitter σ}
    {machine later : Machine σ}
    {program : Program}
    {error : EvalError}
    (failed : machine.executeAll emitter program = (.error error, later)) :
    ∃ statement ∈ program, ∃ node ∈ statement.value.nodes, error.line = node.line := by
  obtain ⟨before, statement, after, reached, rfl, -, failedValue⟩ :=
    (executeAll_eq_error_iff _ _ _ _ _).mp failed
  obtain ⟨node, within, raises⟩ := raises_of_evaluate statement.value failedValue
  exact ⟨statement, by simp, node, within, raises.line_eq⟩

/-! ### Runs -/

/-- A failure behind the scanner names the line of a token. -/
theorem line_mem_of_run_error
    {source : String}
    {failure : Failure}
    (failed : run source = .error failure) :
    (∃ error, failure = .scan error ∧ Token.scan source = .error error) ∨
    ∃ tokens, Token.scan source = .ok tokens ∧ failure.line ∈ tokens.map PlacedToken.line := by
  have ending := run_ending source
  rw [failed] at ending
  cases ending with
  | scan scanned => exact .inl ⟨_, rfl, scanned⟩
  | grammar scanned read => exact .inr ⟨_, scanned, Grammar.line_of_program_error read⟩
  | scope scanned read checked =>
      obtain ⟨before, statement, after, rfl, onLine, -⟩ :=
        Declarations.lines_of_check_error checked
      refine .inr ⟨_, scanned, ?_⟩
      rw [Failure.line, onLine]
      exact Grammar.line_mem_of_statement read (by simp)
  | eval scanned read checked executed =>
      obtain ⟨statement, inProgram, node, within, onLine⟩ :=
        Machine.line_of_executeAll_error executed
      refine .inr ⟨_, scanned, ?_⟩
      rw [Failure.line, onLine]
      exact Grammar.line_mem_of_node read inProgram within

/-- A name is declared first before it is declared again. -/
theorem firstLine_of_run_error
    {source name : String}
    {line firstLine : Nat}
    (failed : run source = .error (.scope (.alreadyDeclared name line firstLine))) :
    1 ≤ firstLine ∧ firstLine ≤ line := by
  have ending := run_ending source
  rw [failed] at ending
  cases ending with
  | scope scanned read checked =>
      obtain ⟨before, statement, after, rfl, onLine, earlier⟩ :=
        Declarations.lines_of_check_error checked
      have inBefore := earlier name line firstLine rfl
      -- The order of the tokens is all that puts the first declaration before the second.
      have sorted := Grammar.statement_lines_sorted read (Token.lines_sorted_of_scan scanned)
      rw [List.map_append, List.map_cons, List.pairwise_append] at sorted
      have inOrder : firstLine ≤ statement.line :=
        sorted.2.2 firstLine inBefore statement.line List.mem_cons_self
      have isStatement : line = statement.line := onLine
      obtain ⟨first, isFirst, rfl⟩ := List.mem_map.mp inBefore
      have onToken := Grammar.line_mem_of_statement read (List.mem_append_left _ isFirst)
      have bounds := Token.line_of_scan scanned onToken
      exact ⟨bounds.1, isStatement ▸ inOrder⟩

/-- **Reported lines are real.**  In a run that succeeds, every node of the program stands on the
line of one of its own tokens.  The line in the message of a failure is a line of the script, and
behind the scanner it is the line of a token.  A variable that is declared twice was first declared
on a line of the script that is not behind the second one. -/
theorem reported_lines_are_real (source : String) :
    (∀ compilation, run source = .ok compilation →
      ∃ parts, compilation.tokens = parts.flatten ∧
        List.Forall₂ Statement.OnOwnLines compilation.program parts) ∧
    (∀ failure, run source = .error failure →
      (∃ text, failure.message = messageOnLine failure.line text) ∧
      1 ≤ failure.line ∧ failure.line ≤ 1 + source.toList.count '\n' ∧
      ((∃ error, failure = .scan error) ∨
        ∃ tokens, Token.scan source = .ok tokens ∧ failure.line ∈ tokens.map PlacedToken.line) ∧
      (∀ name line firstLine, failure = .scope (.alreadyDeclared name line firstLine) →
        1 ≤ firstLine ∧ firstLine ≤ line)) := by
  refine ⟨?_, ?_⟩
  · intro compilation succeeds
    have read := ((run_eq_ok_iff _ _).mp succeeds).2.1
    exact Grammar.exists_parts_of_program read
  · intro failure failed
    refine ⟨failure.exists_message, ?_⟩
    have repeated : ∀ name line firstLine,
        failure = .scope (.alreadyDeclared name line firstLine) →
        1 ≤ firstLine ∧ firstLine ≤ line := by
      rintro name line firstLine rfl
      exact firstLine_of_run_error failed
    rcases line_mem_of_run_error failed with ⟨error, rfl, failedScan⟩ | ⟨tokens, scanned, onToken⟩
    · have bounds := Token.line_of_scan_error failedScan
      exact ⟨bounds.1, bounds.2, .inl ⟨error, rfl⟩, repeated⟩
    · have bounds := Token.line_of_scan scanned onToken
      exact ⟨bounds.1, bounds.2, .inr ⟨tokens, scanned, onToken⟩, repeated⟩

end Reckoner
