import Reckoner.Instruction
import Reckoner.NameMap
import Reckoner.Number.Arithmetic
import Reckoner.Program

/-!
Contract: running programs.

A machine holds the values of the variables, the number of temporaries handed out, and the state of
an emitter.  Evaluation yields a value or the cause why there is none; in both cases the machine
keeps what was done up to that point.

Owns: the evaluation of expressions, the execution of statements and of programs, and the
instructions they emit.

Does not own: whether the declarations of a program are legal.
-/

namespace Reckoner

/-- The state of a run. -/
structure Machine (σ : Type) where
  environment : NameMap Number := {}
  temporaries : Nat := 0
  emitted : σ

/-- Steps of a machine that may fail.  A failure keeps the state reached. -/
abbrev Run (σ α : Type) := ExceptT EvalError (StateM (Machine σ)) α

namespace Run

variable {σ : Type} (emitter : Emitter σ)

def ofResult {α : Type} (result : Except EvalError α) : Run σ α :=
  ExceptT.mk (pure result)

def emit (instruction : Instruction) : Run σ Unit :=
  modify fun machine =>
    { machine with emitted := emitter.emit machine.emitted instruction }

def freshTemporary : Run σ Nat := do
  modify fun machine => { machine with temporaries := machine.temporaries + 1 }
  return (← get).temporaries

def variableValue (name : String) (line : Nat) : Run σ Number := do
  match (← get).environment.find? name with
  | some value => return value
  | none => throw (.undefinedVariable name line)

def setVariable (name : String) (value : Number) : Run σ Unit :=
  modify fun machine => { machine with environment := machine.environment.insert name value }

/-- Combines a running result with further operands, one instruction for each. -/
def foldSteps (operator : FoldOperator) (line temporary : Nat) :
    Number → List Number → Run σ Number
  | result, [] => return result
  | result, operand :: rest => do
      let next ← ofResult (result.apply (.fold operator) operand line)
      emit emitter (.fold operator temporary operand)
      foldSteps operator line temporary next rest

/-- Folds the values of the operands from the left. -/
def foldValues (operator : FoldOperator) (line : Nat) : List Number → Run σ Number
  | [] => throw (.missingOperand (.fold operator) line)
  | first :: rest => do
      let temporary ← freshTemporary
      foldSteps emitter operator line temporary first rest

def callFunction (operator : FunctionOperator) (line : Nat) (operand : Number) :
    Run σ Number := do
  let result ← ofResult (Number.call (.function operator) operand line)
  let temporary ← freshTemporary
  emit emitter (.call operator temporary operand)
  return result

mutual

/-- Evaluates an expression.  A folding operator evaluates all its operands first, from left to
right; a function evaluates only its first operand. -/
def evaluate : Expr → Run σ Number
  | .number value _ => return value
  | .identifier name line => variableValue name line
  | .group inner _ => evaluate inner
  | .operation (.fold operator) operands line => do
      foldValues emitter operator line (← evaluateAll operands)
  | .operation (.function operator) [] line => throw (.missingOperand (.function operator) line)
  | .operation (.function operator) (operand :: _) line => do
      callFunction emitter operator line (← evaluate operand)

def evaluateAll : List Expr → Run σ (List Number)
  | [] => return []
  | expr :: rest => do
      let value ← evaluate expr
      return value :: (← evaluateAll rest)

end

def define (name : String) (value : Expr) : Run σ Unit := do
  let result ← evaluate emitter value
  setVariable name result
  emit emitter (.store name result)

/-- Executes a statement; the result is the value that it prints, if it prints one. -/
def execute : Statement → Run σ (Option Number)
  | .declare name value _ | .assign name value _ => do
      define emitter name value
      return none
  | .print value _ => do
      let result ← evaluate emitter value
      let temporary ← freshTemporary
      emit emitter (.print temporary result)
      return some result

/-- Executes statements in order; the result lists the values that they print. -/
def executeAll : Program → Run σ (List Number)
  | [] => return []
  | statement :: rest => do
      let printed ← execute emitter statement
      return printed.toList ++ (← executeAll rest)

end Run

namespace Machine

variable {σ : Type}

def perform {α : Type} (machine : Machine σ) (steps : Run σ α) :
    Except EvalError α × Machine σ :=
  Id.run (StateT.run steps.run machine)

def evaluate (emitter : Emitter σ) (machine : Machine σ) (expr : Expr) :
    Except EvalError Number × Machine σ :=
  machine.perform (Run.evaluate emitter expr)

def execute (emitter : Emitter σ) (machine : Machine σ) (statement : Statement) :
    Except EvalError (Option Number) × Machine σ :=
  machine.perform (Run.execute emitter statement)

def executeAll (emitter : Emitter σ) (machine : Machine σ) (program : Program) :
    Except EvalError (List Number) × Machine σ :=
  machine.perform (Run.executeAll emitter program)

/-- Printed values as one text, one value a line. -/
def outputText (printed : List Number) : String :=
  "\n".intercalate (printed.map Number.text)

def valueOf? (machine : Machine σ) (name : String) : Option Number :=
  machine.environment.find? name

/-- The machine of a new run, which writes a listing. -/
def fresh : Machine Listing where
  emitted := {}

end Machine

end Reckoner
