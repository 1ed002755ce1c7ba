import Reckoner.Machine.Steps
import Reckoner.Proofs.Grammar

/-!
Contract: what evaluating and executing do to a machine.

An evaluation computes in temporaries and leaves the variables alone, whether it ends in a value or
in a failure.  A statement evaluates its expression and, when there is a value, completes with one
instruction of its own: it stores the value or prints it.  A program is its statements one after
the other, up to the first that fails.

Owns: the instructions of an evaluation, the completion of a statement, and the equations of
execution in terms of both.

Does not own: the values that expressions have.
-/

namespace Reckoner

/-- Whether an instruction computes in a temporary, and neither stores nor prints. -/
def Instruction.isComputation : Instruction → Bool
  | .fold .. | .call .. => true
  | .store .. | .print .. => false

section

variable {σ α β : Type} (emitter : Emitter σ)

/-- What lies between two states of a machine when only computations took place. -/
structure Computed (before after : Machine σ) (instructions : List Instruction) : Prop where
  environment : after.environment = before.environment
  temporaries : before.temporaries ≤ after.temporaries
  emitted : after.emitted = instructions.foldl emitter.emit before.emitted
  computations : ∀ instruction ∈ instructions, instruction.isComputation

theorem Computed.refl (machine : Machine σ) : Computed emitter machine machine [] where
  environment := rfl
  temporaries := Nat.le_refl _
  emitted := rfl
  computations := by simp

variable {emitter} in
theorem Computed.trans
    {before middle after : Machine σ}
    {first second : List Instruction}
    (start : Computed emitter before middle first)
    (rest : Computed emitter middle after second) :
    Computed emitter before after (first ++ second) where
  environment := rest.environment.trans start.environment
  temporaries := Nat.le_trans start.temporaries rest.temporaries
  emitted := by rw [rest.emitted, start.emitted, List.foldl_append]
  computations := by
    intro instruction member
    rcases List.mem_append.mp member with inFirst | inSecond
    · exact start.computations instruction inFirst
    · exact rest.computations instruction inSecond

/-- What was emitted between two states of a machine.  Computations apart, it is `completions`. -/
def Wrote (before after : Machine σ) (completions : List Instruction) : Prop :=
  ∃ instructions : List Instruction,
    after.emitted = instructions.foldl emitter.emit before.emitted ∧
    instructions.filter (!·.isComputation) = completions

theorem Wrote.refl (machine : Machine σ) : Wrote emitter machine machine [] :=
  ⟨[], rfl, rfl⟩

variable {emitter} in
theorem Wrote.trans
    {before middle after : Machine σ}
    {first second : List Instruction}
    (start : Wrote emitter before middle first)
    (rest : Wrote emitter middle after second) :
    Wrote emitter before after (first ++ second) := by
  obtain ⟨written, emitted, completions⟩ := start
  obtain ⟨further, emittedBehind, completionsBehind⟩ := rest
  refine ⟨written ++ further, ?_, ?_⟩
  · rw [emittedBehind, emitted, List.foldl_append]
  · rw [List.filter_append, completions, completionsBehind]

variable {emitter} in
theorem Computed.wrote
    {before after : Machine σ}
    {instructions : List Instruction}
    (computed : Computed emitter before after instructions) :
    Wrote emitter before after [] := by
  refine ⟨instructions, computed.emitted, ?_⟩
  rw [List.filter_eq_nil_iff]
  intro instruction member
  simp [computed.computations instruction member]

namespace Run

/-- Steps that only compute, on every machine and also when they fail. -/
def OnlyComputes (steps : Run σ α) : Prop :=
  ∀ machine : Machine σ,
    ∃ instructions, Computed emitter machine (machine.perform steps).2 instructions

namespace OnlyComputes

theorem pure (value : α) : OnlyComputes emitter (Pure.pure value : Run σ α) :=
  fun machine => ⟨[], .refl emitter machine⟩

theorem throw (error : EvalError) : OnlyComputes emitter (MonadExcept.throw error : Run σ α) :=
  fun machine => ⟨[], .refl emitter machine⟩

theorem ofResult (result : Except EvalError α) :
    OnlyComputes emitter (Run.ofResult result : Run σ α) :=
  fun machine => ⟨[], .refl emitter machine⟩

theorem variableValue (name : String) (line : Nat) :
    OnlyComputes emitter (Run.variableValue name line : Run σ Number) := by
  intro machine
  rw [Machine.perform_variableValue]
  exact ⟨[], .refl emitter machine⟩

theorem freshTemporary : OnlyComputes emitter (Run.freshTemporary : Run σ Nat) := by
  intro machine
  refine ⟨[], ?_⟩
  exact ⟨rfl, Nat.le_succ _, rfl, by simp⟩

theorem emit {instruction : Instruction} (computation : instruction.isComputation) :
    OnlyComputes emitter (Run.emit emitter instruction) := by
  intro machine
  refine ⟨[instruction], ?_⟩
  exact ⟨rfl, Nat.le_refl _, rfl, by simpa using computation⟩

variable {emitter} in
/-- The step lemma: steps in sequence only compute if each of them does. -/
theorem bind
    {first : Run σ α}
    {next : α → Run σ β}
    (firstComputes : OnlyComputes emitter first)
    (nextComputes : ∀ value, OnlyComputes emitter (next value)) :
    OnlyComputes emitter (first >>= next) := by
  intro machine
  obtain ⟨instructions, start⟩ := firstComputes machine
  rw [Machine.perform_bind]
  cases outcome : machine.perform first with
  | mk result later =>
      rw [outcome] at start
      cases result with
      | error error => exact ⟨instructions, start⟩
      | ok value =>
          obtain ⟨further, rest⟩ := nextComputes value later
          exact ⟨instructions ++ further, start.trans rest⟩

end OnlyComputes

private theorem foldSteps_onlyComputes
    (operator : FoldOperator)
    (line temporary : Nat)
    (result : Number)
    (operands : List Number) :
    OnlyComputes emitter (foldSteps emitter operator line temporary result operands) := by
  induction operands generalizing result with
  | nil => exact .pure emitter result
  | cons operand rest inductionHypothesis =>
      apply OnlyComputes.bind (.ofResult emitter _)
      intro next
      apply OnlyComputes.bind (.emit emitter rfl)
      intro _
      exact inductionHypothesis next

private theorem foldValues_onlyComputes
    (operator : FoldOperator)
    (line : Nat)
    (values : List Number) :
    OnlyComputes emitter (foldValues emitter operator line values) := by
  cases values with
  | nil => exact .throw emitter _
  | cons first rest =>
      apply OnlyComputes.bind (.freshTemporary emitter)
      intro temporary
      exact foldSteps_onlyComputes emitter operator line temporary first rest

private theorem callFunction_onlyComputes
    (operator : FunctionOperator)
    (line : Nat)
    (operand : Number) :
    OnlyComputes emitter (callFunction emitter operator line operand) := by
  apply OnlyComputes.bind (.ofResult emitter _)
  intro result
  apply OnlyComputes.bind (.freshTemporary emitter)
  intro temporary
  apply OnlyComputes.bind (.emit emitter rfl)
  intro _
  exact .pure emitter result

mutual

/-- Evaluating changes no variable, and neither stores nor prints. -/
theorem evaluate_onlyComputes (expr : Expr) : OnlyComputes emitter (evaluate emitter expr) := by
  cases expr with
  | number value line => exact .pure emitter value
  | identifier name line => exact .variableValue emitter name line
  | group inner line => exact evaluate_onlyComputes inner
  | operation operator operands line =>
      cases operator with
      | fold step =>
          apply OnlyComputes.bind (evaluateAll_onlyComputes operands)
          intro values
          exact foldValues_onlyComputes emitter step line values
      | function function =>
          cases operands with
          | nil => exact .throw emitter _
          | cons operand rest =>
              apply OnlyComputes.bind (evaluate_onlyComputes operand)
              intro value
              exact callFunction_onlyComputes emitter function line value

theorem evaluateAll_onlyComputes (exprs : List Expr) :
    OnlyComputes emitter (evaluateAll emitter exprs) := by
  cases exprs with
  | nil => exact .pure emitter []
  | cons expr rest =>
      apply OnlyComputes.bind (evaluate_onlyComputes expr)
      intro value
      apply OnlyComputes.bind (evaluateAll_onlyComputes rest)
      intro values
      exact .pure emitter (value :: values)

end

end Run

end

/-! ### Statements -/

namespace Statement

def target? : Statement → Option String
  | .declare name _ _ | .assign name _ _ => some name
  | .print .. => none

/-- What a statement prints when its expression has the given value. -/
def printed? (value : Number) : Statement → Option Number
  | .declare .. | .assign .. => none
  | .print .. => some value

/-- The instruction with which a statement completes: it stores the value of its expression, or
prints it from the given temporary. -/
def completion (temporary : Nat) (value : Number) : Statement → Instruction
  | .declare name _ _ | .assign name _ _ => .store name value
  | .print .. => .print temporary value

end Statement

namespace Machine

variable {σ : Type} (emitter : Emitter σ)

variable {emitter} in
/-- An evaluation only computes, whatever its result is. -/
theorem computed_of_evaluate
    {machine later : Machine σ}
    {expr : Expr}
    {result : Except EvalError Number}
    (evaluates : machine.evaluate emitter expr = (result, later)) :
    ∃ instructions, Computed emitter machine later instructions := by
  have computed := Run.evaluate_onlyComputes emitter expr machine
  rw [evaluate] at evaluates
  rwa [evaluates] at computed

/-- The machine on which a statement has completed, after its expression had a value. -/
def complete (machine : Machine σ) (value : Number) : Statement → Machine σ
  | .declare name _ _ | .assign name _ _ =>
      { machine with
        environment := machine.environment.insert name value
        emitted := emitter.emit machine.emitted (.store name value) }
  | .print .. =>
      { machine with
        temporaries := machine.temporaries + 1
        emitted := emitter.emit machine.emitted (.print (machine.temporaries + 1) value) }

theorem complete_emitted (machine : Machine σ) (value : Number) (statement : Statement) :
    (machine.complete emitter value statement).emitted =
      emitter.emit machine.emitted (statement.completion (machine.temporaries + 1) value) := by
  cases statement <;> rfl

/-- Completing sets the target of the statement and nothing else. -/
theorem complete_find?
    (machine : Machine σ)
    (value : Number)
    (statement : Statement)
    (name : String) :
    (machine.complete emitter value statement).environment.find? name =
      if statement.target? = some name then some value else machine.environment.find? name := by
  cases statement with
  | declare target expr line | assign target expr line =>
      simp [complete, Statement.target?, NameMap.find?_insert]
  | print expr line => rfl

private theorem complete_temporaries_le
    (machine : Machine σ)
    (value : Number)
    (statement : Statement) :
    machine.temporaries ≤ (machine.complete emitter value statement).temporaries := by
  cases statement with
  | declare name expr line | assign name expr line => exact Nat.le_refl _
  | print expr line => exact Nat.le_succ _

theorem wrote_complete (machine : Machine σ) (value : Number) (statement : Statement) :
    Wrote emitter machine (machine.complete emitter value statement)
      [statement.completion (machine.temporaries + 1) value] := by
  refine ⟨[statement.completion (machine.temporaries + 1) value], ?_, ?_⟩
  · exact complete_emitted emitter machine value statement
  · cases statement <;> rfl

/-- A statement fails with its expression, and otherwise completes. -/
theorem execute_eq (machine : Machine σ) (statement : Statement) :
    machine.execute emitter statement =
      match machine.evaluate emitter statement.value with
      | (.error error, later) => (.error error, later)
      | (.ok value, later) =>
          (.ok (statement.printed? value), later.complete emitter value statement) := by
  cases statement with
  | declare name expr line | assign name expr line =>
      simp only [execute, Run.execute, Run.define, perform_bind, Statement.value, evaluate]
      obtain ⟨result, later⟩ := machine.perform (Run.evaluate emitter expr)
      cases result <;> rfl
  | print expr line =>
      simp only [execute, Run.execute, perform_bind, Statement.value, evaluate]
      obtain ⟨result, later⟩ := machine.perform (Run.evaluate emitter expr)
      cases result <;> rfl

/-- A statement fails exactly if its expression does, and on the same machine. -/
theorem execute_eq_error_iff
    (machine later : Machine σ)
    (statement : Statement)
    (error : EvalError) :
    machine.execute emitter statement = (.error error, later) ↔
      machine.evaluate emitter statement.value = (.error error, later) := by
  rw [execute_eq]
  cases machine.evaluate emitter statement.value with
  | mk result evaluated => cases result <;> simp

/-- A statement succeeds in two steps: its expression has a value, and the statement completes. -/
theorem execute_eq_ok_iff
    (machine later : Machine σ)
    (statement : Statement)
    (printed : Option Number) :
    machine.execute emitter statement = (.ok printed, later) ↔
      ∃ value evaluated,
        machine.evaluate emitter statement.value = (.ok value, evaluated) ∧
        statement.printed? value = printed ∧ evaluated.complete emitter value statement = later := by
  rw [execute_eq]
  cases machine.evaluate emitter statement.value with
  | mk result evaluated => cases result <;> simp

/-! ### Programs -/

theorem executeAll_nil (machine : Machine σ) :
    machine.executeAll emitter [] = (.ok [], machine) := rfl

/-- A program is executed up to its first statement that fails. -/
theorem executeAll_cons (machine : Machine σ) (statement : Statement) (rest : Program) :
    machine.executeAll emitter (statement :: rest) =
      match machine.execute emitter statement with
      | (.error error, later) => (.error error, later)
      | (.ok printed, later) =>
          ((later.executeAll emitter rest).1.map (printed.toList ++ ·),
            (later.executeAll emitter rest).2) := by
  simp only [executeAll, Run.executeAll, perform_bind, execute]
  obtain ⟨result, later⟩ := machine.perform (Run.execute emitter statement)
  cases result with
  | error error => rfl
  | ok printed =>
      simp only
      obtain ⟨outcome, last⟩ := later.perform (Run.executeAll emitter rest)
      cases outcome <;> rfl

/-- A program succeeds when its first statement does and the others do behind it. -/
theorem executeAll_cons_eq_ok_iff
    (machine later : Machine σ)
    (statement : Statement)
    (rest : Program)
    (printed : List Number) :
    machine.executeAll emitter (statement :: rest) = (.ok printed, later) ↔
      ∃ value middle others,
        machine.execute emitter statement = (.ok value, middle) ∧
        middle.executeAll emitter rest = (.ok others, later) ∧ value.toList ++ others = printed := by
  constructor
  · intro executed
    rw [executeAll, Run.executeAll, perform_bind_eq_ok_iff] at executed
    obtain ⟨value, middle, first, remaining⟩ := executed
    obtain ⟨others, last, behind, returned⟩ := (perform_bind_eq_ok_iff _ _ _ _ _).mp remaining
    obtain ⟨⟨⟩, rfl⟩ := Prod.mk.inj returned
    exact ⟨value, middle, others, first, behind, rfl⟩
  · rintro ⟨value, middle, others, first, behind, rfl⟩
    rw [executeAll_cons, first]
    simp only [behind, Except.map]

private theorem executeAll_cons_of_error
    {machine later : Machine σ}
    {statement : Statement}
    {error : EvalError}
    (failed : machine.evaluate emitter statement.value = (.error error, later))
    (rest : Program) :
    machine.executeAll emitter (statement :: rest) = (.error error, later) := by
  rw [executeAll_cons, execute_eq, failed]

private theorem executeAll_cons_of_ok
    {machine evaluated : Machine σ}
    {statement : Statement}
    {value : Number}
    (evaluates : machine.evaluate emitter statement.value = (.ok value, evaluated))
    (rest : Program) :
    machine.executeAll emitter (statement :: rest) =
      (((evaluated.complete emitter value statement).executeAll emitter rest).1.map
          ((statement.printed? value).toList ++ ·),
        ((evaluated.complete emitter value statement).executeAll emitter rest).2) := by
  rw [executeAll_cons, execute_eq, evaluates]

theorem executeAll_single (machine : Machine σ) (statement : Statement) :
    (machine.executeAll emitter [statement]).2 = (machine.execute emitter statement).2 := by
  rw [executeAll_cons]
  cases machine.execute emitter statement with
  | mk result later => cases result <;> rfl

/-- A second part is executed on the machine that the first one leaves, if it succeeds. -/
theorem executeAll_append (machine : Machine σ) (first second : Program) :
    machine.executeAll emitter (first ++ second) =
      match machine.executeAll emitter first with
      | (.error error, later) => (.error error, later)
      | (.ok printed, later) =>
          ((later.executeAll emitter second).1.map (printed ++ ·),
            (later.executeAll emitter second).2) := by
  induction first generalizing machine with
  | nil =>
      simp only [List.nil_append, executeAll_nil]
      cases machine.executeAll emitter second with
      | mk result later => cases result <;> rfl
  | cons statement rest inductionHypothesis =>
      rw [List.cons_append, executeAll_cons, executeAll_cons]
      cases machine.execute emitter statement with
      | mk result later =>
          cases result with
          | error error => rfl
          | ok printed =>
              simp only [inductionHypothesis later]
              obtain ⟨outcome, last⟩ := later.executeAll emitter rest
              cases outcome with
              | error error => rfl
              | ok values =>
                  simp only [Except.map]
                  cases last.executeAll emitter second with
                  | mk final _ => cases final <;> simp

/-- Every statement of a program succeeds, and `later` is the machine behind the last one. -/
def Executes (machine : Machine σ) (program : Program) (later : Machine σ) : Prop :=
  ∃ printed, machine.executeAll emitter program = (.ok printed, later)

theorem executes_nil_iff (machine later : Machine σ) :
    machine.Executes emitter [] later ↔ machine = later := by
  simp [Executes, executeAll_nil]

theorem executes_cons_iff
    (machine later : Machine σ)
    (statement : Statement)
    (rest : Program) :
    machine.Executes emitter (statement :: rest) later ↔
      ∃ value evaluated,
        machine.evaluate emitter statement.value = (.ok value, evaluated) ∧
        (evaluated.complete emitter value statement).Executes emitter rest later := by
  cases outcome : machine.evaluate emitter statement.value with
  | mk result evaluated =>
      cases result with
      | error error => simp [Executes, executeAll_cons_of_error emitter outcome]
      | ok value =>
          simp only [Executes, executeAll_cons_of_ok emitter outcome]
          cases remaining :
            (evaluated.complete emitter value statement).executeAll emitter rest with
          | mk final last => cases final <;> simp [Except.map, remaining]

/-- A program in two parts succeeds if both do, one behind the other. -/
theorem executes_append_iff (machine later : Machine σ) (first second : Program) :
    machine.Executes emitter (first ++ second) later ↔
      ∃ middle, machine.Executes emitter first middle ∧ middle.Executes emitter second later := by
  simp only [Executes, executeAll_append]
  cases machine.executeAll emitter first with
  | mk result middle =>
      cases result with
      | error error => simp
      | ok printed =>
          cases remaining : middle.executeAll emitter second with
          | mk outcome last => cases outcome <;> simp [Except.map, remaining]

variable {emitter} in
/-- Execution is deterministic. -/
theorem Executes.unique
    {machine later other : Machine σ}
    {program : Program}
    (executes : machine.Executes emitter program later)
    (executesToo : machine.Executes emitter program other) :
    later = other := by
  obtain ⟨printed, executed⟩ := executes
  obtain ⟨printedToo, executedToo⟩ := executesToo
  exact (Prod.mk.inj (executed.symm.trans executedToo)).2

variable {emitter} in
theorem Executes.temporaries_le
    {machine later : Machine σ}
    {program : Program}
    (executes : machine.Executes emitter program later) :
    machine.temporaries ≤ later.temporaries := by
  induction program generalizing machine with
  | nil => exact Nat.le_of_eq (congrArg temporaries ((executes_nil_iff emitter _ _).mp executes))
  | cons statement rest inductionHypothesis =>
      obtain ⟨value, evaluated, evaluates, behind⟩ :=
        (executes_cons_iff emitter _ _ _ _).mp executes
      obtain ⟨instructions, computed⟩ := computed_of_evaluate evaluates
      have evaluating := computed.temporaries
      have completing := complete_temporaries_le emitter evaluated value statement
      have remaining := inductionHypothesis behind
      omega

/-- A program fails at one of its statements: those before it succeed, and its expression has no
value. -/
theorem executeAll_eq_error_iff
    (machine later : Machine σ)
    (program : Program)
    (error : EvalError) :
    machine.executeAll emitter program = (.error error, later) ↔
      ∃ before statement after reached,
        program = before ++ statement :: after ∧
        machine.Executes emitter before reached ∧
        reached.evaluate emitter statement.value = (.error error, later) := by
  constructor
  · intro failed
    induction program generalizing machine with
    | nil => simp [executeAll_nil] at failed
    | cons statement rest inductionHypothesis =>
        cases outcome : machine.evaluate emitter statement.value with
        | mk result evaluated =>
            cases result with
            | error cause =>
                rw [executeAll_cons_of_error emitter outcome] at failed
                obtain ⟨⟨⟩, rfl⟩ := Prod.mk.inj failed
                refine ⟨[], statement, rest, machine, rfl, ?_, outcome⟩
                exact (executes_nil_iff emitter machine machine).mpr rfl
            | ok value =>
                rw [executeAll_cons_of_ok emitter outcome] at failed
                have failedBehind : (evaluated.complete emitter value statement).executeAll
                    emitter rest = (.error error, later) := by
                  revert failed
                  cases (evaluated.complete emitter value statement).executeAll emitter rest with
                  | mk final last => cases final <;> simp [Except.map]
                obtain ⟨before, failing, after, reached, rfl, executes, evaluates⟩ :=
                  inductionHypothesis _ failedBehind
                refine ⟨statement :: before, failing, after, reached, rfl, ?_, evaluates⟩
                exact (executes_cons_iff emitter _ _ _ _).mpr ⟨value, evaluated, outcome, executes⟩
  · rintro ⟨before, statement, after, reached, rfl, ⟨printed, executed⟩, evaluates⟩
    rw [executeAll_append, executed]
    simp only [executeAll_cons_of_error emitter evaluates, Except.map]

end Machine

end Reckoner
