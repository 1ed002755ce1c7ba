import Reckoner.Proofs.Effects

/-!
Contract: a variable is undefined exactly when it is used before a statement sets it.

The identifiers that an evaluation looks up can be read off an expression, from left to right.  A
machine that was new before a program knows the targets of the statements executed so far and no
other name.  So whether a look-up can fail is visible in the program alone, and the variable that an
error names is the first one that no earlier statement sets.

Owns: the uses of an expression, the targets of a program, the names that a machine knows, and the
agreement of failed look-ups with both.

Does not own: failures other than undefined variables.  These may come first.
-/

namespace Reckoner

/-! ### Uses and targets -/

/-- An identifier that is looked up, and the line it stands on. -/
structure Use where
  name : String
  line : Nat
deriving DecidableEq

mutual

/-- The identifiers that the evaluation of an expression looks up, from left to right.  Operands of
a function behind the first one are never evaluated. -/
def Expr.uses : Expr → List Use
  | .number .. => []
  | .identifier name line => [⟨name, line⟩]
  | .group inner _ => inner.uses
  | .operation (.fold _) operands _ => Expr.usesOfAll operands
  | .operation (.function _) [] _ => []
  | .operation (.function _) (operand :: _) _ => operand.uses

def Expr.usesOfAll : List Expr → List Use
  | [] => []
  | expr :: rest => expr.uses ++ Expr.usesOfAll rest

end

/-- The variables that the statements of a program set. -/
def targets (program : Program) : List String :=
  program.filterMap Statement.target?

private theorem mem_targets_cons (name : String) (statement : Statement) (rest : Program) :
    name ∈ targets (statement :: rest) ↔
      statement.target? = some name ∨ name ∈ targets rest := by
  simp [targets]

/-- Every use is the target of an earlier statement. -/
def UsesDefined (program : Program) : Prop :=
  ∀ before statement after, program = before ++ statement :: after →
    ∀ use ∈ statement.value.uses, use.name ∈ targets before

/-- The leftmost use without an earlier target, in the first statement that has one. -/
def FirstUndefined (program : Program) (use : Use) : Prop :=
  ∃ before statement after, program = before ++ statement :: after ∧ UsesDefined before ∧
    ∃ earlier later, statement.value.uses = earlier ++ use :: later ∧
      (∀ other ∈ earlier, other.name ∈ targets before) ∧ use.name ∉ targets before

/-! ### Look-ups of an evaluation -/

section

variable {σ α β : Type}

/-- What a result tells about the uses behind it.  A value was found for all of them, or an
undefined variable is the first one without a value. -/
def AccountsFor (environment : NameMap Number) (uses : List Use) : Except EvalError α → Prop
  | .ok _ => ∀ use ∈ uses, environment.contains use.name
  | .error (.undefinedVariable name line) =>
      ∃ earlier later, uses = earlier ++ ⟨name, line⟩ :: later ∧
        (∀ use ∈ earlier, environment.contains use.name) ∧ ¬ environment.contains name
  | .error (.invalidOperand ..) | .error (.missingOperand ..) | .error (.divisionByZero _) => True

namespace AccountsFor

variable {environment : NameMap Number} {uses further : List Use}

/-- A failure says nothing about what would have been looked up behind it. -/
theorem append_of_error
    {error : EvalError}
    (accounts : AccountsFor environment uses (.error error : Except EvalError α)) :
    AccountsFor environment (uses ++ further) (.error error : Except EvalError β) := by
  cases error with
  | undefinedVariable name line =>
      obtain ⟨earlier, later, rfl, found, missing⟩ := accounts
      exact ⟨earlier, later ++ further, by simp, found, missing⟩
  | invalidOperand operator fault line | missingOperand operator line
  | divisionByZero line => trivial

private theorem append_of_found
    {result : Except EvalError α}
    (allFound : ∀ use ∈ uses, environment.contains use.name)
    (accounts : AccountsFor environment further result) :
    AccountsFor environment (uses ++ further) result := by
  cases result with
  | ok value => exact List.forall_mem_append.mpr ⟨allFound, accounts⟩
  | error error =>
      cases error with
      | undefinedVariable name line =>
          obtain ⟨earlier, later, rfl, found, missing⟩ := accounts
          refine ⟨uses ++ earlier, later, by simp, ?_, missing⟩
          exact List.forall_mem_append.mpr ⟨allFound, found⟩
      | invalidOperand operator fault line | missingOperand operator line
      | divisionByZero line => trivial

end AccountsFor

private theorem Number.apply_accountsFor
    (environment : NameMap Number)
    (left : Number)
    (operator : Operator)
    (right : Number)
    (line : Nat) :
    AccountsFor environment [] (left.apply operator right line) := by
  unfold Number.apply
  split
  · trivial
  · split
    · trivial
    · simp [AccountsFor]

private theorem Number.call_accountsFor
    (environment : NameMap Number)
    (operator : Operator)
    (operand : Number)
    (line : Nat) :
    AccountsFor environment [] (Number.call operator operand line) := by
  unfold Number.call
  split
  · trivial
  · split
    · trivial
    · simp [AccountsFor]
  · simp [AccountsFor]

namespace Run

/-- Steps whose result accounts for the given uses, on every machine. -/
def LooksUp (steps : Run σ α) (uses : List Use) : Prop :=
  ∀ machine : Machine σ, AccountsFor machine.environment uses (machine.perform steps).1

namespace LooksUp

theorem pure (value : α) : LooksUp (Pure.pure value : Run σ α) [] := by
  intro machine
  simp [AccountsFor]

theorem emit (emitter : Emitter σ) (instruction : Instruction) :
    LooksUp (Run.emit emitter instruction) [] := by
  intro machine
  simp [AccountsFor]

theorem freshTemporary : LooksUp (Run.freshTemporary : Run σ Nat) [] := by
  intro machine
  simp [AccountsFor]

theorem ofResult
    {result : Except EvalError α}
    (accounts : ∀ environment, AccountsFor environment [] result) :
    LooksUp (Run.ofResult result : Run σ α) [] :=
  fun machine => accounts machine.environment

/-- Only looking up a variable accounts for a use. -/
theorem variableValue (name : String) (line : Nat) :
    LooksUp (Run.variableValue name line : Run σ Number) [⟨name, line⟩] := by
  intro machine
  rw [Machine.perform_variableValue]
  cases found : machine.environment.find? name with
  | some value => simp [AccountsFor, NameMap.contains, found]
  | none => exact ⟨[], [], rfl, by simp, by simp [NameMap.contains, found]⟩

/-- The uses of steps in sequence follow each other.  The first steps must leave the variables as
they are. -/
theorem bind
    {emitter : Emitter σ}
    {first : Run σ α}
    {next : α → Run σ β}
    {firstUses nextUses : List Use}
    (firstComputes : OnlyComputes emitter first)
    (firstLooksUp : LooksUp first firstUses)
    (nextLooksUp : ∀ value, LooksUp (next value) nextUses) :
    LooksUp (first >>= next) (firstUses ++ nextUses) := by
  intro machine
  obtain ⟨instructions, computed⟩ := firstComputes machine
  have accounts := firstLooksUp machine
  rw [Machine.perform_bind]
  cases outcome : machine.perform first with
  | mk result later =>
      rw [outcome] at computed accounts
      cases result with
      | error error => exact accounts.append_of_error
      | ok value =>
          have accountsNext := nextLooksUp value later
          rw [computed.environment] at accountsNext
          exact accountsNext.append_of_found accounts

end LooksUp

variable (emitter : Emitter σ)

private theorem foldSteps_looksUp
    (operator : FoldOperator)
    (line temporary : Nat)
    (result : Number)
    (operands : List Number) :
    LooksUp (foldSteps emitter operator line temporary result operands) [] := by
  induction operands generalizing result with
  | nil => exact .pure result
  | cons operand rest inductionHypothesis =>
      have accounts := fun environment =>
        result.apply_accountsFor environment (.fold operator) operand line
      apply LooksUp.bind (.ofResult emitter _) (.ofResult accounts)
      intro next
      apply LooksUp.bind (.emit emitter rfl) (.emit emitter _)
      intro _
      exact inductionHypothesis next

private theorem foldValues_looksUp (operator : FoldOperator) (line : Nat) (values : List Number) :
    LooksUp (foldValues emitter operator line values) [] := by
  cases values with
  | nil => exact fun _ => trivial
  | cons first rest =>
      apply LooksUp.bind (.freshTemporary emitter) .freshTemporary
      intro temporary
      exact foldSteps_looksUp emitter operator line temporary first rest

private theorem callFunction_looksUp (operator : FunctionOperator) (line : Nat) (operand : Number) :
    LooksUp (callFunction emitter operator line operand) [] := by
  have accounts := fun environment =>
    Number.call_accountsFor environment (.function operator) operand line
  apply LooksUp.bind (.ofResult emitter _) (.ofResult accounts)
  intro result
  apply LooksUp.bind (.freshTemporary emitter) .freshTemporary
  intro temporary
  apply LooksUp.bind (.emit emitter rfl) (.emit emitter _)
  intro _
  exact .pure result

mutual

/-- An evaluation looks up the uses of the expression, from left to right. -/
theorem evaluate_looksUp (expr : Expr) : LooksUp (evaluate emitter expr) expr.uses := by
  cases expr with
  | number value line => exact .pure value
  | identifier name line => exact .variableValue name line
  | group inner line => exact evaluate_looksUp inner
  | operation operator operands line =>
      cases operator with
      | fold step =>
          rw [Expr.uses, ← List.append_nil (Expr.usesOfAll operands)]
          apply LooksUp.bind (evaluateAll_onlyComputes emitter operands)
            (evaluateAll_looksUp operands)
          intro values
          exact foldValues_looksUp emitter step line values
      | function function =>
          cases operands with
          | nil => exact fun _ => trivial
          | cons operand rest =>
              rw [Expr.uses, ← List.append_nil operand.uses]
              apply LooksUp.bind (evaluate_onlyComputes emitter operand) (evaluate_looksUp operand)
              intro value
              exact callFunction_looksUp emitter function line value

private theorem evaluateAll_looksUp (exprs : List Expr) :
    LooksUp (evaluateAll emitter exprs) (Expr.usesOfAll exprs) := by
  cases exprs with
  | nil => exact .pure []
  | cons expr rest =>
      apply LooksUp.bind (evaluate_onlyComputes emitter expr) (evaluate_looksUp expr)
      intro value
      rw [← List.append_nil (Expr.usesOfAll rest)]
      apply LooksUp.bind (evaluateAll_onlyComputes emitter rest) (evaluateAll_looksUp rest)
      intro values
      exact .pure (value :: values)

end

end Run

end

/-! ### Names that a machine knows -/

namespace Machine

variable {σ : Type} (emitter : Emitter σ)

def unused (emitted : σ) : Machine σ where
  emitted := emitted

private theorem complete_contains
    (machine : Machine σ)
    (value : Number)
    (statement : Statement)
    (name : String) :
    (machine.complete emitter value statement).environment.contains name ↔
      machine.environment.contains name ∨ statement.target? = some name := by
  cases statement with
  | declare target expr line | assign target expr line =>
      simp [complete, Statement.target?, NameMap.contains_insert]
  | print expr line => simp [complete, Statement.target?]

variable {emitter}

/-- Behind statements that succeeded a machine knows what it knew, and the targets. -/
theorem Executes.contains_iff
    {machine later : Machine σ}
    {program : Program}
    (executes : machine.Executes emitter program later)
    (name : String) :
    later.environment.contains name ↔
      machine.environment.contains name ∨ name ∈ targets program := by
  induction program generalizing machine with
  | nil =>
      obtain rfl := (executes_nil_iff emitter _ _).mp executes
      simp [targets]
  | cons statement rest inductionHypothesis =>
      obtain ⟨value, evaluated, evaluates, behind⟩ :=
        (executes_cons_iff emitter _ _ _ _).mp executes
      obtain ⟨instructions, computed⟩ := computed_of_evaluate evaluates
      rw [inductionHypothesis behind, complete_contains, computed.environment, mem_targets_cons,
        or_assoc]

/-- Starting from nothing, exactly the targets have values. -/
theorem Executes.contains_iff_of_unused
    {emitted : σ}
    {later : Machine σ}
    {program : Program}
    (executes : (unused emitted).Executes emitter program later)
    (name : String) :
    later.environment.contains name ↔ name ∈ targets program := by
  have nothing : (unused emitted).environment.contains name = false := rfl
  rw [executes.contains_iff, nothing]
  simp

variable (emitter)

theorem evaluate_accountsFor (machine : Machine σ) (expr : Expr) :
    AccountsFor machine.environment expr.uses (machine.evaluate emitter expr).1 :=
  Run.evaluate_looksUp emitter expr machine

variable {emitter}

/-- A program that succeeds uses no variable before it is set. -/
theorem Executes.usesDefined
    {emitted : σ}
    {later : Machine σ}
    {program : Program}
    (executes : (unused emitted).Executes emitter program later) :
    UsesDefined program := by
  rintro before statement after rfl use member
  obtain ⟨reached, executesBefore, executesRest⟩ :=
    (executes_append_iff emitter _ _ _ _).mp executes
  obtain ⟨value, evaluated, evaluates, -⟩ :=
    (executes_cons_iff emitter _ _ _ _).mp executesRest
  have accounts := evaluate_accountsFor emitter reached statement.value
  rw [evaluates] at accounts
  rw [← executesBefore.contains_iff_of_unused]
  exact accounts use member

/-- The failure names the first use of a variable that has not been set. -/
theorem firstUndefined_of_executeAll
    {emitted : σ}
    {later : Machine σ}
    {program : Program}
    {name : String}
    {line : Nat}
    (failed : (unused emitted).executeAll emitter program =
      (.error (.undefinedVariable name line), later)) :
    FirstUndefined program ⟨name, line⟩ := by
  obtain ⟨before, statement, after, reached, rfl, executesBefore, evaluates⟩ :=
    (executeAll_eq_error_iff emitter _ _ _ _).mp failed
  have accounts := evaluate_accountsFor emitter reached statement.value
  rw [evaluates] at accounts
  obtain ⟨earlier, rest, split, found, missing⟩ := accounts
  refine ⟨before, statement, after, rfl, executesBefore.usesDefined, earlier, rest, split, ?_, ?_⟩
  · intro other member
    rw [← executesBefore.contains_iff_of_unused]
    exact found other member
  · rw [← executesBefore.contains_iff_of_unused]
    exact missing

end Machine

private theorem FirstUndefined.not_usesDefined
    {program : Program}
    {use : Use}
    (undefined : FirstUndefined program use) :
    ¬ UsesDefined program := by
  obtain ⟨before, statement, after, rfl, -, earlier, later, split, -, missing⟩ := undefined
  intro defined
  have member : use ∈ statement.value.uses := by simp [split]
  exact missing (defined before statement after rfl use member)

/-- **An undefined variable is a use before definition.**  On a new machine no variable is undefined
when every use has an earlier target, every program that succeeds is of this kind, and the variable
that an error names is the leftmost use without an earlier target, in the first statement that has
one. -/
theorem undefinedVariable_is_use_before_definition
    {σ : Type}
    (emitter : Emitter σ)
    (emitted : σ)
    (program : Program) :
    (UsesDefined program → ∀ name line,
      ((Machine.unused emitted).executeAll emitter program).1 ≠
        .error (.undefinedVariable name line)) ∧
    (∀ printed, ((Machine.unused emitted).executeAll emitter program).1 = .ok printed →
      UsesDefined program) ∧
    (∀ name line, ((Machine.unused emitted).executeAll emitter program).1 =
      .error (.undefinedVariable name line) → FirstUndefined program ⟨name, line⟩) := by
  have blames : ∀ name line, ((Machine.unused emitted).executeAll emitter program).1 =
      .error (.undefinedVariable name line) → FirstUndefined program ⟨name, line⟩ := by
    intro name line failed
    exact Machine.firstUndefined_of_executeAll (Prod.ext failed rfl)
  refine ⟨?_, ?_, blames⟩
  · intro defined name line failed
    exact (blames name line failed).not_usesDefined defined
  · intro printed succeeded
    exact Machine.Executes.usesDefined ⟨printed, Prod.ext succeeded rfl⟩

end Reckoner
