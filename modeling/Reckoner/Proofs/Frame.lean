import Reckoner.Proofs.Lockstep

/-!
Contract: what a call on a machine leaves as it was.

Only a statement that succeeds sets a variable, and it sets no other than its own.  A call that
fails may have written lines and handed out temporaries before it failed; it takes none of them
back, and it undoes no variable that an earlier statement has set.

Owns: the variables behind each call, the place at which a program fails, and the growth of the
listings and of the number of temporaries.

Does not own: how many lines a call adds.
-/

namespace Reckoner

namespace Machine

section Variables

variable {σ : Type} {emitter : Emitter σ} {machine later : Machine σ} {statement : Statement}

/-- Evaluating leaves the variables alone, whether it succeeds or fails. -/
theorem evaluate_environment (emitter : Emitter σ) (machine : Machine σ) (expr : Expr) :
    (machine.evaluate emitter expr).2.environment = machine.environment := by
  obtain ⟨instructions, computed⟩ := Run.evaluate_onlyComputes emitter expr machine
  exact computed.environment

theorem environment_of_execute_error
    {error : EvalError}
    (failed : machine.execute emitter statement = (.error error, later)) :
    later.environment = machine.environment := by
  have failedValue := (execute_eq_error_iff _ _ _ _ _).mp failed
  have unchanged := evaluate_environment emitter machine statement.value
  rwa [failedValue] at unchanged

/-- A statement changes no variable but its target. -/
theorem valueOf?_of_execute
    {printed : Option Number}
    (succeeds : machine.execute emitter statement = (.ok printed, later))
    {name : String}
    (notTarget : statement.target? ≠ some name) :
    later.valueOf? name = machine.valueOf? name := by
  obtain ⟨value, evaluated, evaluates, -, rfl⟩ := (execute_eq_ok_iff _ _ _ _ _).mp succeeds
  have unchanged := evaluate_environment emitter machine statement.value
  rw [evaluates] at unchanged
  rw [valueOf?, complete_find?, if_neg notTarget, unchanged, valueOf?]

theorem environment_of_print
    {printed : Option Number}
    {expr : Expr}
    {line : Nat}
    (succeeds : machine.execute emitter (.print expr line) = (.ok printed, later)) :
    later.environment = machine.environment := by
  obtain ⟨value, evaluated, evaluates, -, rfl⟩ := (execute_eq_ok_iff _ _ _ _ _).mp succeeds
  have unchanged := evaluate_environment emitter machine expr
  have evaluatesPrinted : machine.evaluate emitter expr = (.ok value, evaluated) := evaluates
  rwa [evaluatesPrinted] at unchanged

end Variables

/-! ### The place of a failure -/

/-- A program that fails stops at one of its statements.  The statements before it succeed, and the
machine is the one that the failing statement leaves behind them. -/
theorem executeAll_eq_error_iff_at_index
    {σ : Type}
    (emitter : Emitter σ)
    (machine later : Machine σ)
    (program : Program)
    (error : EvalError) :
    machine.executeAll emitter program = (.error error, later) ↔
      ∃ index statement printed reached,
        program[index]? = some statement ∧
        machine.executeAll emitter (program.take index) = (.ok printed, reached) ∧
        reached.execute emitter statement = (.error error, later) := by
  rw [executeAll_eq_error_iff]
  constructor
  · rintro ⟨before, statement, after, reached, rfl, ⟨printed, executed⟩, failed⟩
    refine ⟨before.length, statement, printed, reached, by simp, ?_, ?_⟩
    · rw [List.take_left]
      exact executed
    · exact (execute_eq_error_iff _ _ _ _ _).mpr failed
  · rintro ⟨index, statement, printed, reached, found, executed, failed⟩
    obtain ⟨inRange, rfl⟩ := List.getElem?_eq_some_iff.mp found
    have split : program = program.take index ++ program[index] :: program.drop (index + 1) := by
      rw [List.getElem_cons_drop, List.take_append_drop]
    refine ⟨program.take index, program[index], program.drop (index + 1), reached, split, ?_, ?_⟩
    · exact ⟨printed, executed⟩
    · exact (execute_eq_error_iff _ _ _ _ _).mp failed

/-! ### Growth -/

private theorem temporaries_le_of_evaluate
    {σ : Type}
    {emitter : Emitter σ}
    {machine later : Machine σ}
    {expr : Expr}
    {result : Except EvalError Number}
    (evaluates : machine.evaluate emitter expr = (result, later)) :
    machine.temporaries ≤ later.temporaries := by
  obtain ⟨instructions, computed⟩ := computed_of_evaluate evaluates
  exact computed.temporaries

private theorem temporaries_le_executeAll
    {σ : Type}
    (emitter : Emitter σ)
    (machine : Machine σ)
    (program : Program) :
    machine.temporaries ≤ (machine.executeAll emitter program).2.temporaries := by
  cases outcome : machine.executeAll emitter program with
  | mk result later =>
      cases result with
      | ok printed =>
          have executes : machine.Executes emitter program later := ⟨printed, outcome⟩
          exact executes.temporaries_le
      | error error =>
          obtain ⟨before, statement, after, reached, -, executes, failed⟩ :=
            (executeAll_eq_error_iff _ _ _ _ _).mp outcome
          have succeeding := executes.temporaries_le
          have failing := temporaries_le_of_evaluate failed
          exact Nat.le_trans succeeding failing

private theorem temporaries_le_afterCall
    {σ : Type}
    (emitter : Emitter σ)
    (machine : Machine σ)
    (call : Call) :
    machine.temporaries ≤ (machine.afterCall emitter call).temporaries := by
  cases call with
  | evaluate expr => exact temporaries_le_of_evaluate rfl
  | execute statement =>
      rw [afterCall, ← executeAll_single]
      exact temporaries_le_executeAll emitter machine [statement]
  | executeAll program => exact temporaries_le_executeAll emitter machine program

/-- Lines that have been written are never taken back. -/
theorem listing_prefix_afterCall (machine : Machine Listing) (call : Call) :
    machine.emitted.threeAddress <+:
      (machine.afterCall Listing.emitter call).emitted.threeAddress ∧
    machine.emitted.assembly <+: (machine.afterCall Listing.emitter call).emitted.assembly := by
  obtain ⟨completions, ⟨instructions, emitted, -⟩, -⟩ :=
    afterCall_wrote Listing.emitter machine call
  rw [emitted, Listing.threeAddress_foldl_emit, Listing.assembly_foldl_emit]
  exact ⟨List.prefix_append _ _, List.prefix_append _ _⟩

/-- **Calls leave the state intact.**  An evaluation and a failing statement change no variable, and
a statement that succeeds changes at most its own.  A failing program is where its failing statement
leaves it behind the statements before.  No call takes back a temporary or a line of a listing. -/
theorem calls_leave_state_intact {σ : Type} (emitter : Emitter σ) (machine : Machine σ) :
    (∀ expr, (machine.evaluate emitter expr).2.environment = machine.environment) ∧
    (∀ statement error later, machine.execute emitter statement = (.error error, later) →
      later.environment = machine.environment) ∧
    (∀ statement printed later, machine.execute emitter statement = (.ok printed, later) →
      (∀ name, statement.target? ≠ some name → later.valueOf? name = machine.valueOf? name) ∧
      (∀ expr line, statement = .print expr line → later.environment = machine.environment)) ∧
    (∀ program error later, machine.executeAll emitter program = (.error error, later) ↔
      ∃ index statement printed reached,
        program[index]? = some statement ∧
        machine.executeAll emitter (program.take index) = (.ok printed, reached) ∧
        reached.execute emitter statement = (.error error, later)) ∧
    (∀ call, machine.temporaries ≤ (machine.afterCall emitter call).temporaries) ∧
    (∀ (listed : Machine Listing) (call : Call),
      listed.emitted.threeAddress <+:
        (listed.afterCall Listing.emitter call).emitted.threeAddress ∧
      listed.emitted.assembly <+:
        (listed.afterCall Listing.emitter call).emitted.assembly) := by
  refine ⟨evaluate_environment emitter machine, ?_, ?_, ?_, ?_, listing_prefix_afterCall⟩
  · intro statement error later failed
    exact environment_of_execute_error failed
  · intro statement printed later succeeds
    constructor
    · intro name notTarget
      exact valueOf?_of_execute succeeds notTarget
    · rintro expr line rfl
      exact environment_of_print succeeds
  · intro program error later
    exact executeAll_eq_error_iff_at_index emitter machine later program error
  · exact temporaries_le_afterCall emitter machine

end Machine

end Reckoner
