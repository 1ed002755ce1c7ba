import Reckoner.Machine

/-!
Contract: what the single steps of a run do to a machine.

Every law says what performing a step yields and which machine it leaves.  With the law for steps in
sequence they describe a whole run, and nothing else about the steps is needed.

Owns: the laws of sequencing, of failure and of each basic step, and which steps an operation takes.

Does not own: laws about whole expressions and programs.
-/

namespace Reckoner

namespace Machine

variable {σ α β : Type} (emitter : Emitter σ) (machine : Machine σ)

@[simp]
theorem perform_pure (value : α) :
    machine.perform (pure value) = (.ok value, machine) := rfl

@[simp]
theorem perform_throw (error : EvalError) :
    machine.perform (throw error : Run σ α) = (.error error, machine) := rfl

/-- The second step starts where the first one ended; a failure of the first one stops the run. -/
theorem perform_bind (first : Run σ α) (next : α → Run σ β) :
    machine.perform (first >>= next) =
      match machine.perform first with
      | (.ok value, later) => later.perform (next value)
      | (.error error, later) => (.error error, later) := by
  simp only [perform, bind, ExceptT.bind, ExceptT.mk, ExceptT.run, StateT.bind, StateT.run,
    Id.run, ExceptT.bindCont]
  cases first machine with
  | mk result later => cases result <;> rfl

/-- Steps in sequence yield a value when both parts do. -/
theorem perform_bind_eq_ok_iff
    (later : Machine σ)
    (first : Run σ α)
    (next : α → Run σ β)
    (value : β) :
    machine.perform (first >>= next) = (.ok value, later) ↔
      ∃ result middle,
        machine.perform first = (.ok result, middle) ∧
        middle.perform (next result) = (.ok value, later) := by
  rw [perform_bind]
  cases machine.perform first with
  | mk outcome middle =>
      cases outcome with
      | error error => simp
      | ok result =>
          constructor
          · intro performed
            exact ⟨result, middle, rfl, performed⟩
          · rintro ⟨_, _, ⟨⟩, performed⟩
            exact performed

/-- Steps in sequence fail when one of the parts does. -/
theorem perform_bind_eq_error_iff
    (later : Machine σ)
    (first : Run σ α)
    (next : α → Run σ β)
    (error : EvalError) :
    machine.perform (first >>= next) = (.error error, later) ↔
      machine.perform first = (.error error, later) ∨
      ∃ result middle,
        machine.perform first = (.ok result, middle) ∧
        middle.perform (next result) = (.error error, later) := by
  rw [perform_bind]
  cases machine.perform first with
  | mk outcome middle =>
      cases outcome with
      | error error => simp
      | ok result =>
          constructor
          · intro performed
            exact .inr ⟨result, middle, rfl, performed⟩
          · rintro (failed | ⟨_, _, ⟨⟩, performed⟩)
            · cases failed
            · exact performed

@[simp]
theorem perform_ofResult (result : Except EvalError α) :
    machine.perform (Run.ofResult result) = (result, machine) := rfl

@[simp]
theorem perform_emit (instruction : Instruction) :
    machine.perform (Run.emit emitter instruction) =
      (.ok (), { machine with emitted := emitter.emit machine.emitted instruction }) := rfl

@[simp]
theorem perform_freshTemporary :
    machine.perform Run.freshTemporary =
      (.ok (machine.temporaries + 1),
        { machine with temporaries := machine.temporaries + 1 }) := rfl

@[simp]
theorem perform_setVariable (name : String) (value : Number) :
    machine.perform (Run.setVariable name value) =
      (.ok (), { machine with environment := machine.environment.insert name value }) := rfl

/-- Reading a variable leaves the machine as it is. -/
theorem perform_variableValue (name : String) (line : Nat) :
    machine.perform (Run.variableValue name line) =
      (match machine.environment.find? name with
        | some value => .ok value
        | none => .error (.undefinedVariable name line), machine) := by
  have unfolded :
      machine.perform (Run.variableValue name line) =
        machine.perform
          (match machine.environment.find? name with
            | some value => pure value
            | none => throw (.undefinedVariable name line)) := rfl
  rw [unfolded]
  cases machine.environment.find? name <;> rfl

end Machine

namespace Run

variable {σ : Type} (emitter : Emitter σ) {operator : Operator} (line : Nat)

/-- An operator with a symbol folds the values of its operands, and the fold is written with that
symbol. -/
theorem evaluate_of_symbol
    {symbol : String}
    (hasSymbol : operator.symbol? = some symbol)
    (operands : List Expr) :
    ∃ step : FoldOperator, operator = .fold step ∧ step.symbol = symbol ∧
      evaluate emitter (.operation operator operands line) =
        evaluateAll emitter operands >>= foldValues emitter step line := by
  obtain ⟨step, rfl, isSymbol⟩ := (Operator.symbol?_eq_some_iff _ _).mp hasSymbol
  exact ⟨step, rfl, isSymbol, rfl⟩

/-- An operator without a symbol is a function of the first operand. -/
theorem evaluate_of_no_symbol (noSymbol : operator.symbol? = none) :
    ∃ function : FunctionOperator, operator = .function function ∧
      evaluate emitter (.operation operator [] line) = throw (.missingOperand operator line) ∧
      ∀ (operand : Expr) (unused : List Expr),
        evaluate emitter (.operation operator (operand :: unused) line) =
          evaluate emitter operand >>= callFunction emitter function line := by
  obtain ⟨function, rfl⟩ := (Operator.symbol?_eq_none_iff _).mp noSymbol
  exact ⟨function, rfl, rfl, fun _ _ => rfl⟩

end Run

end Reckoner
