import Reckoner.Proofs.Lockstep
import Reckoner.Proofs.Stages

/-!
Contract: which failures an evaluation can reach, and what causes each of them.

Every failure comes from one node of the expression.  An identifier has no value, an operation has
no operand, a fold divides by zero, or a logarithm is taken of a number that is not positive.  An
evaluation hands each operator to the rules of its own family, so no operator is ever refused for
being of the other one.  The reader counts operands, so in a script no operation is without one.

Owns: the nodes of an expression, the cause of a failure at a node, and the failures that remain for
a script.

Does not own: which of several causes comes first.
-/

namespace Reckoner

/-! ### Nodes -/

mutual

/-- An expression and all expressions within it, whether they are evaluated or not. -/
def Expr.nodes : Expr → List Expr
  | .number value line => [.number value line]
  | .identifier name line => [.identifier name line]
  | .group inner line => .group inner line :: inner.nodes
  | .operation operator operands line =>
      .operation operator operands line :: Expr.nodesOfAll operands

def Expr.nodesOfAll : List Expr → List Expr
  | [] => []
  | expr :: rest => expr.nodes ++ Expr.nodesOfAll rest

end

def Call.nodes : Call → List Expr
  | .evaluate expr => expr.nodes
  | .execute statement => statement.value.nodes
  | .executeAll program => program.flatMap fun statement => statement.value.nodes

/-! ### Causes -/

/-- A node that has no value while the variables are those of `environment`, and the error that
says why. -/
inductive Raises {σ : Type} (emitter : Emitter σ) (environment : NameMap Number) :
    Expr → EvalError → Prop where
  | undefinedVariable {name : String} {line : Nat}
      (missing : environment.find? name = none) :
      Raises emitter environment (.identifier name line) (.undefinedVariable name line)
  | missingOperand {operator : Operator} {line : Nat} :
      Raises emitter environment (.operation operator [] line) (.missingOperand operator line)
  | divisionByZero {operator : FoldOperator} {operands : List Expr} {line : Nat}
      {left right : Number}
      (divides : left.dividesByZero operator right) :
      Raises emitter environment (.operation (.fold operator) operands line) (.divisionByZero line)
  | notPositive {operand : Expr} {unused : List Expr} {line : Nat} {value : Number}
      {start later : Machine σ}
      (sameVariables : start.environment = environment)
      (evaluates : start.evaluate emitter operand = (.ok value, later))
      (nonpositive : value.isNonpositive) :
      Raises emitter environment (.operation (.function .log) (operand :: unused) line)
        (.invalidOperand (.function .log) (.notPositive value) line)

namespace Number

/-- Dividing by zero is the only way for a folding step to fail. -/
theorem apply_fold_eq_error_iff
    (left : Number)
    (operator : FoldOperator)
    (right : Number)
    (line : Nat)
    (error : EvalError) :
    left.apply (.fold operator) right line = .error error ↔
      left.dividesByZero operator right ∧ error = .divisionByZero line := by
  unfold apply
  by_cases divides : left.dividesByZero operator right
  · simp [divides, eq_comm]
  · simp [divides]

private theorem call_function_eq_error_iff
    (operator : FunctionOperator)
    (operand : Number)
    (line : Nat)
    (error : EvalError) :
    call (.function operator) operand line = .error error ↔
      operator = .log ∧ operand.isNonpositive ∧
      error = .invalidOperand (.function .log) (.notPositive operand) line := by
  cases operator with
  | log =>
      unfold call
      by_cases nonpositive : operand.isNonpositive
      · simp [nonpositive, eq_comm]
      · simp [nonpositive]
  | sin | cos | tan => simp [call]

end Number

namespace Machine

section Evaluation

variable {σ : Type} {emitter : Emitter σ} {machine later : Machine σ} {error : EvalError}

private theorem divides_of_foldSteps
    {operator : FoldOperator}
    {line temporary : Nat}
    {result : Number}
    {operands : List Number}
    (failed : machine.perform (Run.foldSteps emitter operator line temporary result operands) =
      (.error error, later)) :
    ∃ left right : Number, left.dividesByZero operator right ∧ error = .divisionByZero line := by
  induction operands generalizing machine result with
  | nil => simp [Run.foldSteps] at failed
  | cons operand rest inductionHypothesis =>
      rw [Run.foldSteps, perform_bind_eq_error_iff] at failed
      rcases failed with refused | ⟨next, middle, -, failedBehind⟩
      · have applied := (Prod.mk.inj refused).1
        exact ⟨result, operand, (Number.apply_fold_eq_error_iff _ _ _ _ _).mp applied⟩
      · rw [perform_bind_eq_error_iff] at failedBehind
        rcases failedBehind with refused | ⟨-, emitted, -, failedRest⟩
        · simp at refused
        · exact inductionHypothesis failedRest

/-- A fold fails without values, or where one of its steps divides by zero. -/
theorem foldValues_error_cases
    {operator : FoldOperator}
    {line : Nat}
    {values : List Number}
    (failed : machine.perform (Run.foldValues emitter operator line values) =
      (.error error, later)) :
    (values = [] ∧ error = .missingOperand (.fold operator) line) ∨
    ∃ left right : Number, left.dividesByZero operator right ∧ error = .divisionByZero line := by
  cases values with
  | nil =>
      have thrown := (Prod.mk.inj failed).1
      exact .inl ⟨rfl, (Except.error.inj thrown).symm⟩
  | cons first rest =>
      rw [Run.foldValues, perform_bind_eq_error_iff] at failed
      rcases failed with refused | ⟨temporary, middle, -, failedBehind⟩
      · simp at refused
      · exact .inr (divides_of_foldSteps failedBehind)

/-- Of the functions only the logarithm fails, and only where it is not defined. -/
theorem nonpositive_of_callFunction
    {operator : FunctionOperator}
    {line : Nat}
    {operand : Number}
    (failed : machine.perform (Run.callFunction emitter operator line operand) =
      (.error error, later)) :
    operator = .log ∧ operand.isNonpositive ∧
    error = .invalidOperand (.function .log) (.notPositive operand) line := by
  rw [Run.callFunction, perform_bind_eq_error_iff] at failed
  rcases failed with refused | ⟨result, middle, -, failedBehind⟩
  · have called := (Prod.mk.inj refused).1
    exact (Number.call_function_eq_error_iff _ _ _ _).mp called
  · rw [perform_bind_eq_error_iff] at failedBehind
    rcases failedBehind with refused | ⟨temporary, handedOut, -, failedEmit⟩
    · simp at refused
    · rw [perform_bind_eq_error_iff] at failedEmit
      rcases failedEmit with refused | ⟨-, emitted, -, failedPure⟩
      · simp at refused
      · simp at failedPure

theorem length_of_evaluateAll
    {exprs : List Expr}
    {values : List Number}
    (evaluates : machine.perform (Run.evaluateAll emitter exprs) = (.ok values, later)) :
    values.length = exprs.length := by
  induction exprs generalizing machine later values with
  | nil =>
      have none : [] = values := Except.ok.inj (Prod.mk.inj evaluates).1
      rw [← none, List.length_nil, List.length_nil]
  | cons expr rest inductionHypothesis =>
      rw [Run.evaluateAll, perform_bind_eq_ok_iff] at evaluates
      obtain ⟨value, middle, -, evaluatesBehind⟩ := evaluates
      rw [perform_bind_eq_ok_iff] at evaluatesBehind
      obtain ⟨others, last, evaluatesRest, collected⟩ := evaluatesBehind
      have joined : value :: others = values := Except.ok.inj (Prod.mk.inj collected).1
      rw [← joined, List.length_cons, List.length_cons, inductionHypothesis evaluatesRest]

end Evaluation

section

variable {σ : Type} {emitter : Emitter σ} {error : EvalError}

mutual

/-- A failed evaluation was caused by one of the nodes, with the variables as they are. -/
theorem raises_of_evaluate
    (expr : Expr)
    {machine later : Machine σ}
    (failed : machine.evaluate emitter expr = (.error error, later)) :
    ∃ node ∈ expr.nodes, Raises emitter machine.environment node error := by
  cases expr with
  | number value line => simp [evaluate, Run.evaluate] at failed
  | identifier name line =>
      rw [evaluate, Run.evaluate, perform_variableValue] at failed
      cases found : machine.environment.find? name with
      | some value => simp [found] at failed
      | none =>
          have reported : error = .undefinedVariable name line := by
            simpa [found, eq_comm] using (Prod.mk.inj failed).1
          rw [reported]
          exact ⟨.identifier name line, by simp [Expr.nodes], .undefinedVariable found⟩
  | group inner line =>
      obtain ⟨node, within, raises⟩ := raises_of_evaluate inner failed
      exact ⟨node, List.mem_cons_of_mem _ within, raises⟩
  | operation operator operands line =>
      cases operator with
      | fold step =>
          rw [evaluate, Run.evaluate, perform_bind_eq_error_iff] at failed
          rcases failed with failedOperands | ⟨values, middle, evaluates, failedFold⟩
          · obtain ⟨node, within, raises⟩ := raises_of_evaluateAll operands failedOperands
            exact ⟨node, List.mem_cons_of_mem _ within, raises⟩
          · refine ⟨.operation (.fold step) operands line, List.mem_cons_self, ?_⟩
            rcases foldValues_error_cases failedFold with ⟨rfl, rfl⟩ | ⟨left, right, divides, rfl⟩
            · have noOperands := (length_of_evaluateAll evaluates).symm
              rw [List.length_nil, List.length_eq_zero_iff] at noOperands
              subst noOperands
              exact .missingOperand
            · exact .divisionByZero divides
      | function function =>
          cases operands with
          | nil =>
              have thrown := (Prod.mk.inj failed).1
              rw [← Except.error.inj thrown]
              exact ⟨_, List.mem_cons_self, .missingOperand⟩
          | cons operand unused =>
              rw [evaluate, Run.evaluate, perform_bind_eq_error_iff] at failed
              rcases failed with failedOperand | ⟨value, middle, evaluates, failedCall⟩
              · obtain ⟨node, within, raises⟩ := raises_of_evaluate operand failedOperand
                refine ⟨node, List.mem_cons_of_mem _ ?_, raises⟩
                exact List.mem_append_left _ within
              · obtain ⟨rfl, nonpositive, rfl⟩ := nonpositive_of_callFunction failedCall
                refine ⟨_, List.mem_cons_self, ?_⟩
                exact .notPositive rfl evaluates nonpositive

private theorem raises_of_evaluateAll
    (exprs : List Expr)
    {machine later : Machine σ}
    (failed : machine.perform (Run.evaluateAll emitter exprs) = (.error error, later)) :
    ∃ node ∈ Expr.nodesOfAll exprs, Raises emitter machine.environment node error := by
  cases exprs with
  | nil => simp [Run.evaluateAll] at failed
  | cons expr rest =>
      rw [Run.evaluateAll, perform_bind_eq_error_iff] at failed
      rcases failed with failedFirst | ⟨value, middle, evaluates, failedBehind⟩
      · obtain ⟨node, within, raises⟩ := raises_of_evaluate expr failedFirst
        exact ⟨node, List.mem_append_left _ within, raises⟩
      · rw [perform_bind_eq_error_iff] at failedBehind
        rcases failedBehind with failedRest | ⟨values, last, -, failedPure⟩
        · obtain ⟨instructions, computed⟩ := computed_of_evaluate evaluates
          obtain ⟨node, within, raises⟩ := raises_of_evaluateAll rest failedRest
          rw [computed.environment] at raises
          exact ⟨node, List.mem_append_right _ within, raises⟩
        · simp at failedPure

end

end

/-- A call ends in an error and leaves the machine `later`. -/
def Fails
    {σ : Type}
    (emitter : Emitter σ)
    (machine : Machine σ)
    (call : Call)
    (error : EvalError)
    (later : Machine σ) : Prop :=
  match call with
  | .evaluate expr => machine.evaluate emitter expr = (.error error, later)
  | .execute statement => machine.execute emitter statement = (.error error, later)
  | .executeAll program => machine.executeAll emitter program = (.error error, later)

/-- A failed call was caused by a node of one of its expressions, with the variables as they were
when the call came to it. -/
theorem Fails.exists_raises
    {σ : Type}
    {emitter : Emitter σ}
    {machine later : Machine σ}
    {call : Call}
    {error : EvalError}
    (fails : machine.Fails emitter call error later) :
    ∃ environment, ∃ node ∈ call.nodes, Raises emitter environment node error := by
  cases call with
  | evaluate expr => exact ⟨machine.environment, raises_of_evaluate expr fails⟩
  | execute statement =>
      have failedValue := (execute_eq_error_iff _ _ _ _ _).mp fails
      exact ⟨machine.environment, raises_of_evaluate statement.value failedValue⟩
  | executeAll program =>
      obtain ⟨before, statement, after, reached, rfl, -, failedValue⟩ :=
        (executeAll_eq_error_iff _ _ _ _ _).mp fails
      obtain ⟨node, within, raises⟩ := raises_of_evaluate statement.value failedValue
      have inProgram : statement ∈ before ++ statement :: after := by simp
      exact ⟨reached.environment, node, List.mem_flatMap.mpr ⟨statement, inProgram, within⟩, raises⟩

end Machine

/-! ### Scripts -/

private theorem Operator.not_accepts_zero (operator : Operator) : ¬ operator.arity.accepts 0 := by
  rcases operator with operator | operator <;> cases operator <;> decide

namespace Expr

private theorem isTerm_of_mem_nodesOfAll
    {operands : List Expr}
    (terms : operands.all isTerm)
    {node : Expr}
    (member : node ∈ nodesOfAll operands) :
    node.isTerm := by
  induction operands with
  | nil => simp [nodesOfAll] at member
  | cons operand rest inductionHypothesis =>
      rw [List.all_cons, Bool.and_eq_true] at terms
      rcases List.mem_append.mp member with inOperand | inRest
      · have single : operand.nodes = [operand] := by
          cases operand <;> simp_all [isTerm, nodes]
        rw [single, List.mem_singleton] at inOperand
        rw [inOperand]
        exact terms.1
      · exact inductionHypothesis terms.2 inRest

/-- In an expression of a script an operation is the whole expression. -/
theorem eq_of_mem_nodes
    {expr : Expr}
    (flat : expr.isFlat)
    {operator : Operator}
    {operands : List Expr}
    {line : Nat}
    (member : .operation operator operands line ∈ expr.nodes) :
    expr = .operation operator operands line := by
  cases expr with
  | number value exprLine | identifier name exprLine => simp [nodes] at member
  | group inner exprLine => simp [isFlat, isTerm] at flat
  | operation exprOperator exprOperands exprLine =>
      rw [isFlat, Bool.and_eq_true] at flat
      rcases List.mem_cons.mp member with same | within
      · exact same.symm
      · have impossible := isTerm_of_mem_nodesOfAll flat.1 within
        simp [isTerm] at impossible

end Expr

namespace Machine

/-- The value of a term is read off the variables alone. -/
theorem evaluate_term
    {σ : Type}
    {emitter : Emitter σ}
    {start later machine : Machine σ}
    {expr : Expr}
    {value : Number}
    (term : expr.isTerm)
    (sameVariables : start.environment = machine.environment)
    (evaluates : start.evaluate emitter expr = (.ok value, later)) :
    machine.evaluate emitter expr = (.ok value, machine) := by
  cases expr with
  | number literal line =>
      have same : literal = value := Except.ok.inj (Prod.mk.inj evaluates).1
      rw [← same]
      rfl
  | identifier name line =>
      rw [evaluate, Run.evaluate, perform_variableValue] at evaluates ⊢
      rw [sameVariables] at evaluates
      have sameResult := (Prod.mk.inj evaluates).1
      rw [sameResult]
  | group inner line | operation operator operands line => simp [Expr.isTerm] at term

end Machine

/-- A script comes to a logarithm, and the value of its operand is not positive. -/
def RefusesLogarithm (program : Program) (value : Number) (line : Nat) : Prop :=
  ∃ before statement after reached operand unused,
    program = before ++ statement :: after ∧
    Machine.fresh.Executes Listing.emitter before reached ∧
    statement.value = .operation (.function .log) (operand :: unused) line ∧
    reached.evaluate Listing.emitter operand = (.ok value, reached) ∧
    value.isNonpositive

/-- What can go wrong in a program that a script can write. -/
theorem evalError_cases_of_canonical
    {program : Program}
    (canonical : Grammar.Canonical program)
    {error : EvalError}
    {later : Machine Listing}
    (failed : Machine.fresh.executeAll Listing.emitter program = (.error error, later)) :
    (∃ name line, error = .undefinedVariable name line) ∨
    (∃ line, error = .divisionByZero line) ∨
    ∃ value line,
      error = .invalidOperand (.function .log) (.notPositive value) line ∧
      RefusesLogarithm program value line := by
  obtain ⟨before, statement, after, reached, rfl, executes, failedValue⟩ :=
    (Machine.executeAll_eq_error_iff _ _ _ _ _).mp failed
  have flat : statement.value.isFlat := canonical.flat statement (by simp)
  obtain ⟨node, within, raises⟩ := Machine.raises_of_evaluate statement.value failedValue
  cases raises with
  | undefinedVariable missing => exact .inl ⟨_, _, rfl⟩
  | divisionByZero divides => exact .inr (.inl ⟨_, rfl⟩)
  | missingOperand =>
      rw [Expr.eq_of_mem_nodes flat within, Expr.isFlat, Bool.and_eq_true] at flat
      exact absurd flat.2 (Operator.not_accepts_zero _)
  | notPositive sameVariables evaluates nonpositive =>
      have whole := Expr.eq_of_mem_nodes flat within
      rw [whole, Expr.isFlat, List.all_cons, Bool.and_eq_true, Bool.and_eq_true] at flat
      have evaluatesHere := Machine.evaluate_term flat.1.1 sameVariables evaluates
      exact .inr (.inr ⟨_, _, rfl, before, statement, after, reached, _, _, rfl, executes, whole,
        evaluatesHere, nonpositive⟩)

/-- **Which failures an evaluation can reach.**  The evaluation of a script fails for an undefined
variable, for a division by zero, or for a logarithm whose operand is not positive, and never for a
missing operand.  On any machine and for any tree, no operator is refused for its family, and a
missing operand is reported only for an operation without operands. -/
theorem evaluation_failures_reachable :
    (∀ source error, run source = .error (.eval error) →
      (∃ name line, error = .undefinedVariable name line) ∨
      (∃ line, error = .divisionByZero line) ∨
      ∃ value line tokens program,
        error = .invalidOperand (.function .log) (.notPositive value) line ∧
        Token.scan source = .ok tokens ∧ Parse.program tokens = .ok program ∧
        RefusesLogarithm program value line) ∧
    (∀ (σ : Type) (emitter : Emitter σ) (machine later : Machine σ) (call : Call) error,
      machine.Fails emitter call error later →
      (∀ operator fault line, error = .invalidOperand operator fault line →
        fault.text ≠ "not a folding operator" ∧ fault.text ≠ "not a function operator") ∧
      (∀ operator line, error = .missingOperand operator line →
        .operation operator [] line ∈ call.nodes)) := by
  constructor
  · intro source error failed
    have ending := run_ending source
    rw [failed] at ending
    cases ending with
    | @eval tokens program _ machine scanned read checked executed =>
        obtain ⟨canonical, -⟩ := (Grammar.program_eq_ok_iff_written _ _).mp read
        rcases evalError_cases_of_canonical canonical executed with
          undefined | division | ⟨value, line, same, refused⟩
        · exact .inl undefined
        · exact .inr (.inl division)
        · exact .inr (.inr ⟨value, line, tokens, program, same, scanned, read, refused⟩)
  · intro σ emitter machine later call error fails
    obtain ⟨environment, node, within, raises⟩ := fails.exists_raises
    constructor
    · rintro operator fault line rfl
      cases raises with
      | @notPositive _ _ _ value =>
          have spelled : (OperandFault.notPositive value).text =
              "logarithm operand must be positive, found " ++ value.text := rfl
          constructor <;>
            · intro same
              have opening := congrArg (·.toList.head?) same
              simp [spelled] at opening
    · rintro operator line rfl
      cases raises with
      | missingOperand => exact within

theorem evaluation_failures_reachable_logarithm :
    run "PRINT LOG 0 10" =
      .error (.eval (.invalidOperand (.function .log) (.notPositive (.integer 0)) 1)) ∧
    ∃ tokens program,
      Token.scan "PRINT LOG 0 10" = .ok tokens ∧ Parse.program tokens = .ok program ∧
      RefusesLogarithm program (.integer 0) 1 := by
  have failed : run "PRINT LOG 0 10" =
      .error (.eval (.invalidOperand (.function .log) (.notPositive (.integer 0)) 1)) := by
    decide +kernel
  refine ⟨failed, ?_⟩
  rcases evaluation_failures_reachable.1 _ _ failed with
    ⟨name, line, same⟩ | ⟨line, same⟩ | ⟨value, line, tokens, program, same, scanned, read, refuses⟩
  · cases same
  · cases same
  · cases same
    exact ⟨tokens, program, scanned, read, refuses⟩

end Reckoner
