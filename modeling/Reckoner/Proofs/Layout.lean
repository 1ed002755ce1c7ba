import Reckoner.Machine.Steps
import Reckoner.Proofs.Grammar
import Reckoner.Proofs.Stages

/-!
Contract: lines are reported and never looked at.

Erasing lines commutes with every stage behind the scanner: with the reader, with the check of
declarations, and with every step of a run.  So two scripts with the same tokens have the same
results, or the same failure, up to the lines that these carry.

Owns: the erasure of lines from tokens, programs and failures, its commutation with each stage, and
the agreement of two scripts that differ in layout only.

Does not own: which layouts yield the same tokens.
-/

namespace Reckoner

/-! ### Erasing lines -/

def PlacedToken.withoutLine (placed : PlacedToken) : PlacedToken :=
  { placed with line := 0 }

mutual

/-- An expression with every line set to zero. -/
def Expr.withoutLines : Expr → Expr
  | .number value _ => .number value 0
  | .identifier name _ => .identifier name 0
  | .group inner _ => .group inner.withoutLines 0
  | .operation operator operands _ => .operation operator (Expr.allWithoutLines operands) 0

def Expr.allWithoutLines : List Expr → List Expr
  | [] => []
  | expr :: rest => expr.withoutLines :: Expr.allWithoutLines rest

end

def Statement.withoutLines : Statement → Statement
  | .declare name value _ => .declare name value.withoutLines 0
  | .assign name value _ => .assign name value.withoutLines 0
  | .print value _ => .print value.withoutLines 0

def ScanError.withoutLine : ScanError → ScanError
  | .unexpectedCharacter character _ => .unexpectedCharacter character 0

def GrammarError.withoutLine : GrammarError → GrammarError
  | .unexpectedToken token _ => .unexpectedToken token 0
  | .expectedIdentifier found _ => .expectedIdentifier found 0
  | .expectedAssign name found _ => .expectedAssign name found 0
  | .unexpectedTokenInTerm token _ => .unexpectedTokenInTerm token 0
  | .arityViolation operator expected found _ => .arityViolation operator expected found 0
  | .unexpectedEnd _ => .unexpectedEnd 0

def ScopeError.withoutLines : ScopeError → ScopeError
  | .alreadyDeclared name _ _ => .alreadyDeclared name 0 0
  | .notDeclared name _ => .notDeclared name 0

def EvalError.withoutLine : EvalError → EvalError
  | .undefinedVariable name _ => .undefinedVariable name 0
  | .invalidOperand operator fault _ => .invalidOperand operator fault 0
  | .missingOperand operator _ => .missingOperand operator 0
  | .divisionByZero _ => .divisionByZero 0

/-- A failure with every line set to zero: its stage, its kind and its other data stay. -/
def Failure.withoutLines : Failure → Failure
  | .scan error => .scan error.withoutLine
  | .grammar error => .grammar error.withoutLine
  | .scope error => .scope error.withoutLines
  | .eval error => .eval error.withoutLine

/-- Two outcomes of a run that differ in lines only. -/
def SameUpToLines : Except Failure Compilation → Except Failure Compilation → Prop
  | .ok left, .ok right =>
      left.output = right.output ∧ left.threeAddress = right.threeAddress ∧
      left.assembly = right.assembly ∧
      left.program.map Statement.withoutLines = right.program.map Statement.withoutLines
  | .error left, .error right => left.withoutLines = right.withoutLines
  | .ok _, .error _ | .error _, .ok _ => False

private theorem map_withoutLine_eq_iff (tokens others : List PlacedToken) :
    tokens.map PlacedToken.withoutLine = others.map PlacedToken.withoutLine ↔
      tokens.map PlacedToken.token = others.map PlacedToken.token := by
  induction tokens generalizing others with
  | nil => cases others <;> simp
  | cons placed rest inductionHypothesis =>
      cases others with
      | nil => simp
      | cons other others => simp [PlacedToken.withoutLine, inductionHypothesis]

/-! ### The reader -/

namespace Parse

/-- What was read, the error and the tokens left, all without lines. -/
def Parsed.erase {α : Type} (eraseValue : α → α) (parsed : Parsed α) : Parsed α :=
  ((parsed.1.map eraseValue).mapError GrammarError.withoutLine,
    parsed.2.map PlacedToken.withoutLine)

private theorem term?_withoutLine (placed : PlacedToken) :
    term? placed.withoutLine = (term? placed).map Expr.withoutLines := by
  obtain ⟨token, line⟩ := placed
  cases token <;> rfl

private theorem length_allWithoutLines (exprs : List Expr) :
    (Expr.allWithoutLines exprs).length = exprs.length := by
  induction exprs with
  | nil => rfl
  | cons expr rest inductionHypothesis => simp [Expr.allWithoutLines, inductionHypothesis]

private theorem operands_withoutLine (tokens : List PlacedToken) :
    operands (tokens.map PlacedToken.withoutLine) =
      (Expr.allWithoutLines (operands tokens).1,
        (operands tokens).2.map PlacedToken.withoutLine) := by
  induction tokens with
  | nil => rfl
  | cons placed rest inductionHypothesis =>
      rw [List.map_cons, operands, operands, term?_withoutLine]
      cases term? placed with
      | none => rfl
      | some expr => simp [inductionHypothesis, Expr.allWithoutLines]

private theorem operation_withoutLine
    (operator : Operator)
    (line : Nat)
    (tokens : List PlacedToken) :
    operation operator 0 (tokens.map PlacedToken.withoutLine) =
      (operation operator line tokens).erase Expr.withoutLines := by
  simp only [operation, operands_withoutLine, length_allWithoutLines]
  split <;> rfl

private theorem expression_withoutLine (line : Nat) (tokens : List PlacedToken) :
    expression 0 (tokens.map PlacedToken.withoutLine) =
      (expression line tokens).erase Expr.withoutLines := by
  cases tokens with
  | nil => rfl
  | cons placed rest =>
      obtain ⟨token, tokenLine⟩ := placed
      cases token with
      | operator operator => exact operation_withoutLine operator tokenLine rest
      | number value | identifier name | var | print | assign | newline | blank => rfl

private theorem definition_withoutLine (name : String) (line : Nat) (tokens : List PlacedToken) :
    definition name 0 (tokens.map PlacedToken.withoutLine) =
      (definition name line tokens).erase Expr.withoutLines := by
  cases tokens with
  | nil => rfl
  | cons placed rest =>
      obtain ⟨token, tokenLine⟩ := placed
      cases token with
      | assign => exact expression_withoutLine line rest
      | number value | operator operator | identifier name | var | print | newline | blank => rfl

private theorem erase_map
    {α β : Type}
    {eraseValue : α → α}
    {eraseResult : β → β}
    {convert convertErased : α → β}
    (commutes : ∀ value, convertErased (eraseValue value) = eraseResult (convert value))
    (parsed : Parsed α) :
    (parsed.erase eraseValue).map convertErased = (parsed.map convert).erase eraseResult := by
  obtain ⟨outcome, left⟩ := parsed
  cases outcome with
  | error error => rfl
  | ok value => simp [Parsed.erase, Parsed.map, Except.map, Except.mapError, commutes]

theorem statement_withoutLine (tokens : List PlacedToken) :
    statement (tokens.map PlacedToken.withoutLine) =
      (statement tokens).erase Statement.withoutLines := by
  cases tokens with
  | nil => rfl
  | cons placed rest =>
      obtain ⟨token, line⟩ := placed
      cases token with
      | var =>
          cases rest with
          | nil => rfl
          | cons found following =>
              obtain ⟨foundToken, foundLine⟩ := found
              cases foundToken with
              | identifier name =>
                  have erased := definition_withoutLine name line following
                  change (definition name 0 _).map (Statement.declare name · 0) =
                    ((definition name line following).map (Statement.declare name · line)).erase _
                  rw [erased]
                  apply erase_map
                  intro value
                  rfl
              | number value | operator operator | var | print | assign | newline | blank => rfl
      | print =>
          have erased := expression_withoutLine line rest
          change (expression 0 _).map (Statement.print · 0) =
            ((expression line rest).map (Statement.print · line)).erase _
          rw [erased]
          apply erase_map
          intro value
          rfl
      | identifier name =>
          have erased := definition_withoutLine name line rest
          change (definition name 0 _).map (Statement.assign name · 0) =
            ((definition name line rest).map (Statement.assign name · line)).erase _
          rw [erased]
          apply erase_map
          intro value
          rfl
      | number value | operator operator | assign | newline | blank => rfl

/-- The reader never looks at lines: it does the same on tokens without them. -/
theorem program_withoutLine (tokens : List PlacedToken) :
    program (tokens.map PlacedToken.withoutLine) =
      ((program tokens).map (·.map Statement.withoutLines)).mapError GrammarError.withoutLine := by
  induction tokens using program.induct with
  | case1 tokens empty =>
      obtain rfl := List.isEmpty_iff.mp empty
      rw [List.map_nil, Grammar.program_nil]
      rfl
  | case2 tokens nonempty error left failed =>
      have erased := statement_withoutLine tokens
      rw [failed] at erased
      rw [List.isEmpty_iff] at nonempty
      rw [Grammar.program_of_statement_error (by simpa using nonempty) erased,
        Grammar.program_of_statement_error nonempty failed]
      rfl
  | case3 tokens nonempty first left read inductionHypothesis =>
      have erased := statement_withoutLine tokens
      rw [read] at erased
      rw [Grammar.program_of_statement erased, inductionHypothesis,
        Grammar.program_of_statement read]
      cases program left <;> rfl

end Parse

/-! ### The check of declarations -/

namespace Declarations

/-- The outcome of the check depends on which names are declared, and not on the lines where they
were. -/
theorem check_withoutLines
    {known other : Declarations}
    (sameNames : ∀ name, known.contains name = other.contains name)
    (program : Program) :
    (other.check (program.map Statement.withoutLines)).1.mapError ScopeError.withoutLines =
      (known.check program).1.mapError ScopeError.withoutLines := by
  induction program generalizing known other with
  | nil => rfl
  | cons statement rest inductionHypothesis =>
      cases statement with
      | declare name value line =>
          have same := sameNames name
          rw [NameMap.contains, NameMap.contains] at same
          simp only [List.map_cons, Statement.withoutLines, check, checkStatement]
          cases found : known.find? name with
          | some firstLine =>
              rw [found, Option.isSome_some, eq_comm, Option.isSome_iff_exists] at same
              obtain ⟨otherLine, foundOther⟩ := same
              rw [foundOther]
              rfl
          | none =>
              rw [found, Option.isSome_none, eq_comm, Option.isSome_eq_false_iff,
                Option.isNone_iff_eq_none] at same
              rw [same]
              apply inductionHypothesis
              intro queried
              have unchanged := sameNames queried
              simp only [NameMap.contains, NameMap.find?_insert] at unchanged ⊢
              split
              · rfl
              · exact unchanged
      | assign name value line =>
          simp only [List.map_cons, Statement.withoutLines, check, checkStatement, ← sameNames name]
          by_cases declared : known.contains name
          · simp only [declared, ↓reduceIte]
            exact inductionHypothesis sameNames
          · simp only [declared, Bool.false_eq_true, ↓reduceIte]
            rfl
      | print value line => exact inductionHypothesis sameNames

end Declarations

/-! ### The steps of a run -/

namespace Number

private theorem apply_withoutLine
    (left : Number)
    (operator : Operator)
    (right : Number)
    (line : Nat) :
    left.apply operator right 0 =
      (left.apply operator right line).mapError EvalError.withoutLine := by
  cases operator with
  | fold step =>
      simp only [apply]
      split <;> rfl
  | function function => rfl

private theorem call_withoutLine (operator : Operator) (operand : Number) (line : Nat) :
    call operator operand 0 = (call operator operand line).mapError EvalError.withoutLine := by
  cases operator with
  | fold step => rfl
  | function function =>
      cases function with
      | log =>
          simp only [call]
          split <;> rfl
      | sin | cos | tan => rfl

end Number

namespace Run

variable {σ α β : Type} (emitter : Emitter σ)

/-- Steps that do the same as others, on every machine, and fail in the same cases: only the line of
the error is erased. -/
def ErasesLineOf (erased steps : Run σ α) : Prop :=
  ∀ machine : Machine σ,
    machine.perform erased =
      ((machine.perform steps).1.mapError EvalError.withoutLine, (machine.perform steps).2)

namespace ErasesLineOf

theorem pure (value : α) : ErasesLineOf (Pure.pure value : Run σ α) (Pure.pure value) :=
  fun _ => rfl

theorem throw (error : EvalError) :
    ErasesLineOf (MonadExcept.throw error.withoutLine : Run σ α) (MonadExcept.throw error) :=
  fun _ => rfl

theorem emit (instruction : Instruction) :
    ErasesLineOf (Run.emit emitter instruction) (Run.emit emitter instruction) :=
  fun _ => rfl

theorem freshTemporary : ErasesLineOf (Run.freshTemporary : Run σ Nat) Run.freshTemporary :=
  fun _ => rfl

theorem setVariable (name : String) (value : Number) :
    ErasesLineOf (Run.setVariable name value : Run σ Unit) (Run.setVariable name value) :=
  fun _ => rfl

theorem ofResult
    {erased result : Except EvalError α}
    (same : erased = result.mapError EvalError.withoutLine) :
    ErasesLineOf (Run.ofResult erased : Run σ α) (Run.ofResult result) := by
  intro machine
  rw [same]
  rfl

theorem variableValue (name : String) (line : Nat) :
    ErasesLineOf (Run.variableValue name 0 : Run σ Number) (Run.variableValue name line) := by
  intro machine
  rw [Machine.perform_variableValue, Machine.perform_variableValue]
  cases machine.environment.find? name <;> rfl

theorem bind
    {erasedFirst first : Run σ α}
    {erasedNext next : α → Run σ β}
    (sameFirst : ErasesLineOf erasedFirst first)
    (sameNext : ∀ value, ErasesLineOf (erasedNext value) (next value)) :
    ErasesLineOf (erasedFirst >>= erasedNext) (first >>= next) := by
  intro machine
  rw [Machine.perform_bind, Machine.perform_bind, sameFirst machine]
  cases machine.perform first with
  | mk result later =>
      cases result with
      | error error => rfl
      | ok value => exact sameNext value later

end ErasesLineOf

private theorem foldSteps_withoutLine
    (operator : FoldOperator)
    (line temporary : Nat)
    (result : Number)
    (operands : List Number) :
    ErasesLineOf (foldSteps emitter operator 0 temporary result operands)
      (foldSteps emitter operator line temporary result operands) := by
  induction operands generalizing result with
  | nil => exact .pure result
  | cons operand rest inductionHypothesis =>
      apply ErasesLineOf.bind (.ofResult (result.apply_withoutLine _ operand line))
      intro next
      apply ErasesLineOf.bind (.emit emitter _)
      intro _
      exact inductionHypothesis next

private theorem foldValues_withoutLine
    (operator : FoldOperator)
    (line : Nat)
    (values : List Number) :
    ErasesLineOf (foldValues emitter operator 0 values)
      (foldValues emitter operator line values) := by
  cases values with
  | nil => exact .throw (.missingOperand (.fold operator) line)
  | cons first rest =>
      apply ErasesLineOf.bind .freshTemporary
      intro temporary
      exact foldSteps_withoutLine emitter operator line temporary first rest

private theorem callFunction_withoutLine
    (operator : FunctionOperator)
    (line : Nat)
    (operand : Number) :
    ErasesLineOf (callFunction emitter operator 0 operand)
      (callFunction emitter operator line operand) := by
  apply ErasesLineOf.bind (.ofResult (Number.call_withoutLine _ operand line))
  intro result
  apply ErasesLineOf.bind .freshTemporary
  intro temporary
  apply ErasesLineOf.bind (.emit emitter _)
  intro _
  exact .pure result

mutual

/-- Lines have no effect on an evaluation, except in the error that it ends with. -/
theorem evaluate_withoutLines (expr : Expr) :
    ErasesLineOf (evaluate emitter expr.withoutLines) (evaluate emitter expr) := by
  cases expr with
  | number value line => exact .pure value
  | identifier name line => exact .variableValue name line
  | group inner line => exact evaluate_withoutLines inner
  | operation operator operands line =>
      cases operator with
      | fold step =>
          apply ErasesLineOf.bind (evaluateAll_withoutLines operands)
          intro values
          exact foldValues_withoutLine emitter step line values
      | function function =>
          cases operands with
          | nil => exact .throw (.missingOperand (.function function) line)
          | cons operand rest =>
              apply ErasesLineOf.bind (evaluate_withoutLines operand)
              intro value
              exact callFunction_withoutLine emitter function line value

private theorem evaluateAll_withoutLines (exprs : List Expr) :
    ErasesLineOf (evaluateAll emitter (Expr.allWithoutLines exprs))
      (evaluateAll emitter exprs) := by
  cases exprs with
  | nil => exact .pure []
  | cons expr rest =>
      apply ErasesLineOf.bind (evaluate_withoutLines expr)
      intro value
      apply ErasesLineOf.bind (evaluateAll_withoutLines rest)
      intro values
      exact .pure (value :: values)

end

private theorem define_withoutLines (name : String) (value : Expr) :
    ErasesLineOf (define emitter name value.withoutLines) (define emitter name value) := by
  apply ErasesLineOf.bind (evaluate_withoutLines emitter value)
  intro result
  apply ErasesLineOf.bind (.setVariable name result)
  intro _
  exact .emit emitter _

private theorem execute_withoutLines (statement : Statement) :
    ErasesLineOf (execute emitter statement.withoutLines) (execute emitter statement) := by
  cases statement with
  | declare name value line | assign name value line =>
      apply ErasesLineOf.bind (define_withoutLines emitter name value)
      intro _
      exact .pure none
  | print value line =>
      apply ErasesLineOf.bind (evaluate_withoutLines emitter value)
      intro result
      apply ErasesLineOf.bind .freshTemporary
      intro temporary
      apply ErasesLineOf.bind (.emit emitter _)
      intro _
      exact .pure (some result)

/-- Lines have no effect on a run, except in the error that it ends with. -/
theorem executeAll_withoutLines (program : Program) :
    ErasesLineOf (executeAll emitter (program.map Statement.withoutLines))
      (executeAll emitter program) := by
  induction program with
  | nil => exact .pure []
  | cons statement rest inductionHypothesis =>
      apply ErasesLineOf.bind (execute_withoutLines emitter statement)
      intro printed
      apply ErasesLineOf.bind inductionHypothesis
      intro values
      exact .pure (printed.toList ++ values)

end Run

/-! ### Whole runs -/

private theorem check_eq_of_same_program
    {program other : Program}
    (same : program.map Statement.withoutLines = other.map Statement.withoutLines) :
    (Declarations.check .empty program).1.mapError ScopeError.withoutLines =
      (Declarations.check .empty other).1.mapError ScopeError.withoutLines := by
  have sameNames : ∀ name,
      (NameMap.empty : Declarations).contains name = NameMap.contains .empty name := fun _ => rfl
  rw [← Declarations.check_withoutLines sameNames program, same,
    Declarations.check_withoutLines sameNames other]

private theorem executeAll_eq_of_same_program
    {σ : Type}
    (emitter : Emitter σ)
    (machine : Machine σ)
    {program other : Program}
    (same : program.map Statement.withoutLines = other.map Statement.withoutLines) :
    (machine.executeAll emitter program).1.mapError EvalError.withoutLine =
        (machine.executeAll emitter other).1.mapError EvalError.withoutLine ∧
      (machine.executeAll emitter program).2 = (machine.executeAll emitter other).2 := by
  have erased := Run.executeAll_withoutLines emitter program machine
  have erasedOther := Run.executeAll_withoutLines emitter other machine
  rw [same, erasedOther] at erased
  exact (Prod.mk.inj erased.symm)

private theorem afterReading_sameUpToLines
    (tokens others : List PlacedToken)
    {program other : Program}
    (same : program.map Statement.withoutLines = other.map Statement.withoutLines) :
    SameUpToLines (afterReading tokens program) (afterReading others other) := by
  have checked := check_eq_of_same_program same
  obtain ⟨sameResult, sameMachine⟩ :=
    executeAll_eq_of_same_program Listing.emitter Machine.fresh same
  unfold afterReading
  revert checked sameResult sameMachine
  cases (Declarations.check .empty program).1 <;> cases (Declarations.check .empty other).1
  · intro checked _ _
    exact congrArg Failure.scope (Except.error.inj checked)
  · intro checked
    cases checked
  · intro checked
    cases checked
  · intro _
    obtain ⟨result, machine⟩ := Machine.fresh.executeAll Listing.emitter program
    obtain ⟨otherResult, otherMachine⟩ := Machine.fresh.executeAll Listing.emitter other
    cases result <;> cases otherResult
    · intro sameResult _
      exact congrArg Failure.eval (Except.error.inj sameResult)
    · intro sameResult
      cases sameResult
    · intro sameResult
      cases sameResult
    · intro sameResult sameMachine
      obtain rfl := Except.ok.inj sameResult
      obtain rfl : machine = otherMachine := sameMachine
      exact ⟨rfl, rfl, rfl, same⟩

/-- **Layout never changes meaning.**  Two scripts with the same tokens have the same outcome up to
lines: both succeed with the same output and the same listings, or both fail in the same way. -/
theorem run_sameUpToLines
    {source other : String}
    {tokens others : List PlacedToken}
    (scanned : Token.scan source = .ok tokens)
    (scannedOther : Token.scan other = .ok others)
    (same : tokens.map PlacedToken.token = others.map PlacedToken.token) :
    SameUpToLines (run source) (run other) := by
  rw [run_of_scan scanned, run_of_scan scannedOther]
  have read := Parse.program_withoutLine tokens
  rw [(map_withoutLine_eq_iff tokens others).mpr same, Parse.program_withoutLine others] at read
  cases outcome : Parse.program tokens with
  | error error =>
      cases outcomeOther : Parse.program others with
      | error otherError =>
          rw [outcome, outcomeOther] at read
          exact congrArg Failure.grammar (Except.error.inj read.symm)
      | ok otherProgram =>
          rw [outcome, outcomeOther] at read
          cases read
  | ok program =>
      cases outcomeOther : Parse.program others with
      | error otherError =>
          rw [outcome, outcomeOther] at read
          cases read
      | ok otherProgram =>
          rw [outcome, outcomeOther] at read
          exact afterReading_sameUpToLines tokens others (Except.ok.inj read.symm)

theorem run_sameUpToLines_division :
    Token.scan "PRINT DIV 1 0" =
      .ok [⟨.print, 1⟩, ⟨.operator (.fold .div), 1⟩, ⟨.number (.integer 1), 1⟩,
        ⟨.number (.integer 0), 1⟩] ∧
    Token.scan "\nPRINT\n\nDIV\t1\r\n0" =
      .ok [⟨.print, 2⟩, ⟨.operator (.fold .div), 4⟩, ⟨.number (.integer 1), 4⟩,
        ⟨.number (.integer 0), 5⟩] ∧
    SameUpToLines (run "PRINT DIV 1 0") (run "\nPRINT\n\nDIV\t1\r\n0") := by
  have scanned : Token.scan "PRINT DIV 1 0" =
      .ok [⟨.print, 1⟩, ⟨.operator (.fold .div), 1⟩, ⟨.number (.integer 1), 1⟩,
        ⟨.number (.integer 0), 1⟩] := by
    decide +kernel
  have scannedOther : Token.scan "\nPRINT\n\nDIV\t1\r\n0" =
      .ok [⟨.print, 2⟩, ⟨.operator (.fold .div), 4⟩, ⟨.number (.integer 1), 4⟩,
        ⟨.number (.integer 0), 5⟩] := by
    decide +kernel
  exact ⟨scanned, scannedOther, run_sameUpToLines scanned scannedOther rfl⟩

end Reckoner
