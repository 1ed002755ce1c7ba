import Reckoner.Proofs.Folds
import Reckoner.Proofs.OutputText

/-!
Contract: what a session emits comes in blocks.

An operation that is evaluated takes one temporary behind its operands, and so does a print
statement behind its expression.  All that it emits with this temporary it emits before anything
else does, so these instructions form a block.  A session is a chain of such blocks, and nothing
between two of them changes the machine.  Calls that fail leave fewer or shorter blocks.

Owns: the operations that an evaluation comes to, blocks, and the blocks of a session.

Does not own: the number of blocks, and the order of their temporaries.
-/

namespace Reckoner

/-! ### Operations that are evaluated -/

structure Operation where
  operator : Operator
  operands : List Expr
  line : Nat

namespace Operation

def expr (operation : Operation) : Expr :=
  .operation operation.operator operation.operands operation.line

/-- The number of instructions that an operation emits itself when it succeeds: a fold emits one for
each operand behind the first, and a function emits one. -/
def instructionCount (operation : Operation) : Nat :=
  match operation.operator with
  | .fold _ => operation.operands.length - 1
  | .function _ => 1

end Operation

mutual

/-- The operations that the evaluation of an expression comes to, in the order in which they end.
Operands of a function behind the first one are never evaluated. -/
def Expr.operations : Expr → List Operation
  | .number .. | .identifier .. => []
  | .group inner _ => inner.operations
  | .operation (.fold operator) operands line =>
      Expr.operationsOfAll operands ++ [⟨.fold operator, operands, line⟩]
  | .operation (.function operator) [] line => [⟨.function operator, [], line⟩]
  | .operation (.function operator) (operand :: others) line =>
      operand.operations ++ [⟨.function operator, operand :: others, line⟩]

def Expr.operationsOfAll : List Expr → List Operation
  | [] => []
  | expr :: rest => expr.operations ++ Expr.operationsOfAll rest

end

/-! ### Blocks -/

def Instruction.temporary? : Instruction → Option Nat
  | .store .. => none
  | .fold _ temporary _ | .call _ temporary _ | .print temporary _ => some temporary

/-- What emits instructions of its own. -/
inductive Origin where
  | operation (node : Operation)
  | statement (executed : Statement)

namespace Origin

def instruction (temporary : Nat) (value : Number) : Origin → Instruction
  | .operation ⟨.fold operator, _, _⟩ => .fold operator temporary value
  | .operation ⟨.function operator, _, _⟩ => .call operator temporary value
  | .statement executed => executed.completion temporary value

/-- Whether an origin takes a temporary.  A statement that sets a variable takes none. -/
def takesTemporary : Origin → Bool
  | .operation _ => true
  | .statement executed => executed.isPrint

def instructionCount : Origin → Nat
  | .operation node => node.instructionCount
  | .statement _ => 1

end Origin

/-- What one evaluation of an operation, or one execution of a statement, emits of its own: one
instruction for each of the values, all with the same temporary. -/
structure Block where
  origin : Origin
  temporary : Nat
  values : List Number

namespace Block

def instructions (block : Block) : List Instruction :=
  block.values.map fun value => block.origin.instruction block.temporary value

def temporary? (block : Block) : Option Nat :=
  if block.origin.takesTemporary then some block.temporary else none

/-- All instructions of a block share its temporary. -/
theorem temporary?_of_mem_instructions
    {block : Block}
    {instruction : Instruction}
    (member : instruction ∈ block.instructions) :
    instruction.temporary? = block.temporary? := by
  obtain ⟨value, -, rfl⟩ := List.mem_map.mp member
  obtain ⟨origin, temporary, values⟩ := block
  cases origin with
  | operation node =>
      obtain ⟨operator, operands, line⟩ := node
      cases operator <;> rfl
  | statement executed => cases executed <;> rfl

end Block

/-! ### Blocks of a run -/

section

variable {σ : Type} (emitter : Emitter σ)

/-- The machine behind all that the origin evaluates before its own part. -/
def Origin.ReachesOwnPart (start middle : Machine σ) : Origin → Prop
  | .operation ⟨.fold _, operands, _⟩ =>
      ∃ values, start.perform (Run.evaluateAll emitter operands) = (.ok values, middle)
  | .operation ⟨.function _, operands, _⟩ =>
      ∃ operand others value, operands = operand :: others ∧
        start.evaluate emitter operand = (.ok value, middle)
  | .statement executed =>
      ∃ value, start.evaluate emitter executed.value = (.ok value, middle)

/-- The machine that an origin leaves, whether it succeeds or fails. -/
def Origin.leaves (start : Machine σ) : Origin → Machine σ
  | .operation node => (start.evaluate emitter node.expr).2
  | .statement executed => (start.execute emitter executed).2

/-- A block is the own part of one evaluation of its operation, or one execution of its statement.  It
starts at `middle`, behind all that is evaluated first, and ends where the whole ends. -/
structure Block.IsOwnPart (block : Block) (middle later : Machine σ) : Prop where
  source : ∃ start, block.origin.ReachesOwnPart emitter start middle ∧
    block.origin.leaves emitter start = later
  next : block.temporary = middle.temporaries + 1
  emitted : later.emitted = block.instructions.foldl emitter.emit middle.emitted
  temporaries : later.temporaries =
    middle.temporaries + if block.origin.takesTemporary then 1 else 0

/-- The way of a machine from one state to another, block by block.  Nothing between two blocks
changes the machine. -/
inductive EmitsBlocks : Machine σ → Machine σ → List Block → Prop
  | refl (machine : Machine σ) : EmitsBlocks machine machine []
  | step
      {block : Block}
      {blocks : List Block}
      {middle later after : Machine σ}
      (ownPart : block.IsOwnPart emitter middle later)
      (rest : EmitsBlocks later after blocks) :
      EmitsBlocks middle after (block :: blocks)

namespace EmitsBlocks

variable {emitter} {before middle after : Machine σ} {blocks further : List Block}

theorem single {block : Block} (ownPart : block.IsOwnPart emitter before after) :
    EmitsBlocks emitter before after [block] :=
  .step ownPart (.refl after)

theorem trans
    (start : EmitsBlocks emitter before middle blocks)
    (rest : EmitsBlocks emitter middle after further) :
    EmitsBlocks emitter before after (blocks ++ further) := by
  induction start with
  | refl machine => exact rest
  | step ownPart _ inductionHypothesis => exact .step ownPart (inductionHypothesis rest)

/-- What is emitted are the instructions of the blocks. -/
theorem emitted (emits : EmitsBlocks emitter before after blocks) :
    after.emitted = (blocks.flatMap Block.instructions).foldl emitter.emit before.emitted := by
  induction emits with
  | refl machine => rfl
  | step ownPart _ inductionHypothesis =>
      rw [inductionHypothesis, ownPart.emitted, List.flatMap_cons, List.foldl_append]

/-- Temporaries are handed out to blocks only. -/
theorem temporaries (emits : EmitsBlocks emitter before after blocks) :
    after.temporaries = before.temporaries + (blocks.filterMap Block.temporary?).length := by
  induction emits with
  | refl machine => rfl
  | @step block _ _ _ _ ownPart _ inductionHypothesis =>
      rw [inductionHypothesis, ownPart.temporaries, List.filterMap_cons, Block.temporary?]
      cases block.origin.takesTemporary with
      | true =>
          simp only [if_pos, List.length_cons]
          omega
      | false => simp

/-- The temporaries of the blocks are numbered without a gap. -/
theorem numbered (emits : EmitsBlocks emitter before after blocks) :
    blocks.filterMap Block.temporary? =
      List.range' (before.temporaries + 1) (blocks.filterMap Block.temporary?).length := by
  induction emits with
  | refl machine => rfl
  | @step block _ _ _ _ ownPart _ inductionHypothesis =>
      rw [ownPart.temporaries] at inductionHypothesis
      rw [List.filterMap_cons, Block.temporary?, ownPart.next]
      cases takes : block.origin.takesTemporary with
      | true =>
          rw [takes, if_pos rfl] at inductionHypothesis
          rw [if_pos rfl, List.length_cons, List.range'_succ, ← inductionHypothesis]
      | false =>
          -- A statement that stores leaves its number to the next block.
          rw [takes, if_neg Bool.false_ne_true] at inductionHypothesis
          rw [if_neg Bool.false_ne_true]
          exact inductionHypothesis

end EmitsBlocks

end

namespace Machine

section

variable {σ : Type} (emitter : Emitter σ)

/-- The block of a fold behind its operands, which have the given values. -/
def foldBlocks (middle : Machine σ) (operator : FoldOperator) (operands : List Expr) (line : Nat) :
    List Number → List Block
  | [] => []
  | first :: rest =>
      [⟨.operation ⟨.fold operator, operands, line⟩, middle.temporaries + 1,
        first.combined operator line rest⟩]

def functionBlocks
    (middle : Machine σ)
    (operator : FunctionOperator)
    (operands : List Expr)
    (line : Nat)
    (value : Number) :
    List Block :=
  match Number.call (.function operator) value line with
  | .ok _ => [⟨.operation ⟨.function operator, operands, line⟩, middle.temporaries + 1, [value]⟩]
  | .error _ => []

mutual

/-- The blocks of an evaluation, one for each operation that takes a temporary.  An operation whose
operands fail takes none, and neither does one without operands or outside its domain. -/
def blocks (machine : Machine σ) : Expr → List Block
  | .number .. | .identifier .. => []
  | .group inner _ => machine.blocks inner
  | .operation (.fold operator) operands line =>
      machine.blocksOfAll operands ++
        match machine.perform (Run.evaluateAll emitter operands) with
        | (.ok values, middle) => middle.foldBlocks operator operands line values
        | (.error _, _) => []
  | .operation (.function _) [] _ => []
  | .operation (.function operator) (operand :: others) line =>
      machine.blocks operand ++
        match machine.evaluate emitter operand with
        | (.ok value, middle) => middle.functionBlocks operator (operand :: others) line value
        | (.error _, _) => []

def blocksOfAll (machine : Machine σ) : List Expr → List Block
  | [] => []
  | expr :: rest =>
      machine.blocks expr ++
        match machine.evaluate emitter expr with
        | (.ok _, middle) => middle.blocksOfAll rest
        | (.error _, _) => []

end

variable {emitter} {machine middle : Machine σ}

/-- Behind its operands, a fold emits its block. -/
theorem foldBlocks_emitted
    {operands : List Expr}
    {values : List Number}
    (evaluates : machine.perform (Run.evaluateAll emitter operands) = (.ok values, middle))
    (operator : FoldOperator)
    (line : Nat) :
    EmitsBlocks emitter middle
      (machine.evaluate emitter (.operation (.fold operator) operands line)).2
      (middle.foldBlocks operator operands line values) := by
  cases values with
  | nil =>
      -- A fold without operands fails before it takes a temporary.
      rw [evaluate, Run.evaluate, perform_bind, evaluates]
      exact .refl middle
  | cons first rest =>
      have evaluated := evaluate_fold evaluates operator line
      have emitted := congrArg (·.2.emitted) evaluated
      exact .single ⟨⟨machine, ⟨_, evaluates⟩, rfl⟩, rfl, emitted,
        congrArg (·.2.temporaries) evaluated⟩

/-- Behind its operand, a function emits its block if the operand is in its domain. -/
theorem functionBlocks_emitted
    {operand : Expr}
    {value : Number}
    (evaluates : machine.evaluate emitter operand = (.ok value, middle))
    (operator : FunctionOperator)
    (others : List Expr)
    (line : Nat) :
    EmitsBlocks emitter middle
      (machine.evaluate emitter (.operation (.function operator) (operand :: others) line)).2
      (middle.functionBlocks operator (operand :: others) line value) := by
  have performed : machine.evaluate emitter
      (.operation (.function operator) (operand :: others) line) =
        middle.perform (Run.callFunction emitter operator line value) := by
    rw [evaluate] at evaluates
    rw [evaluate, Run.evaluate, perform_bind, evaluates]
  rw [Run.callFunction, perform_bind, perform_ofResult] at performed
  unfold functionBlocks
  cases called : Number.call (.function operator) value line with
  | error error =>
      rw [called] at performed
      rw [performed]
      exact .refl middle
  | ok result =>
      rw [called] at performed
      have emitted := congrArg (·.2.emitted) performed
      have reached : Origin.ReachesOwnPart emitter machine middle
          (.operation ⟨.function operator, operand :: others, line⟩) :=
        ⟨operand, others, value, rfl, evaluates⟩
      exact .single ⟨⟨machine, reached, rfl⟩, rfl, emitted, congrArg (·.2.temporaries) performed⟩

mutual

/-- An evaluation emits its blocks, whatever its result is. -/
theorem evaluate_emitsBlocks (expr : Expr) (machine : Machine σ) :
    EmitsBlocks emitter machine (machine.evaluate emitter expr).2 (machine.blocks emitter expr) := by
  cases expr with
  | number value line => exact .refl machine
  | identifier name line =>
      rw [evaluate, Run.evaluate, perform_variableValue]
      exact .refl machine
  | group inner line => exact evaluate_emitsBlocks inner machine
  | operation operator operands line =>
      cases operator with
      | fold step =>
          have operandsEmit := evaluateAll_emitsBlocks operands machine
          rw [blocks]
          cases outcome : machine.perform (Run.evaluateAll emitter operands) with
          | mk result middle =>
              rw [outcome] at operandsEmit
              cases result with
              | error error =>
                  rw [evaluate, Run.evaluate, perform_bind, outcome, List.append_nil]
                  exact operandsEmit
              | ok values => exact operandsEmit.trans (foldBlocks_emitted outcome step line)
      | function function =>
          cases operands with
          | nil => exact .refl machine
          | cons operand others =>
              have operandEmits := evaluate_emitsBlocks operand machine
              rw [blocks]
              cases outcome : machine.evaluate emitter operand with
              | mk result middle =>
                  rw [outcome] at operandEmits
                  cases result with
                  | error error =>
                      rw [evaluate] at outcome
                      rw [evaluate, Run.evaluate, perform_bind, outcome, List.append_nil]
                      exact operandEmits
                  | ok value =>
                      exact operandEmits.trans (functionBlocks_emitted outcome function others line)

private theorem evaluateAll_emitsBlocks (exprs : List Expr) (machine : Machine σ) :
    EmitsBlocks emitter machine (machine.perform (Run.evaluateAll emitter exprs)).2
      (machine.blocksOfAll emitter exprs) := by
  cases exprs with
  | nil => exact .refl machine
  | cons expr rest =>
      have firstEmits := evaluate_emitsBlocks expr machine
      rw [blocksOfAll, Run.evaluateAll, perform_bind, ← evaluate]
      cases outcome : machine.evaluate emitter expr with
      | mk result middle =>
          rw [outcome] at firstEmits
          cases result with
          | error error =>
              rw [List.append_nil]
              exact firstEmits
          | ok value =>
              have restEmits := evaluateAll_emitsBlocks rest middle
              simp only [perform_bind]
              cases remaining : middle.perform (Run.evaluateAll emitter rest) with
              | mk others last =>
                  rw [remaining] at restEmits
                  cases others <;> exact firstEmits.trans restEmits

end

end

/-! ### Blocks of a session -/

section

variable {σ : Type} (emitter : Emitter σ)

/-- The blocks of the expression of a statement, and behind them its own one. -/
def statementBlocks (machine : Machine σ) (statement : Statement) : List Block :=
  machine.blocks emitter statement.value ++
    match machine.evaluate emitter statement.value with
    | (.ok value, middle) => [⟨.statement statement, middle.temporaries + 1, [value]⟩]
    | (.error _, _) => []

/-- The blocks of the statements of a program, up to the first that fails. -/
def programBlocks (machine : Machine σ) : Program → List Block
  | [] => []
  | statement :: rest =>
      machine.statementBlocks emitter statement ++
        match machine.execute emitter statement with
        | (.ok _, later) => later.programBlocks rest
        | (.error _, _) => []

def callBlocks (machine : Machine σ) : Call → List Block
  | .evaluate expr => machine.blocks emitter expr
  | .execute statement => machine.statementBlocks emitter statement
  | .executeAll program => machine.programBlocks emitter program

def sessionBlocks (machine : Machine σ) : List Call → List Block
  | [] => []
  | call :: rest =>
      machine.callBlocks emitter call ++ (machine.afterCall emitter call).sessionBlocks rest

variable {emitter}

theorem execute_emitsBlocks (machine : Machine σ) (statement : Statement) :
    EmitsBlocks emitter machine (machine.execute emitter statement).2
      (machine.statementBlocks emitter statement) := by
  have valueEmits : EmitsBlocks emitter machine _ _ := evaluate_emitsBlocks statement.value machine
  have executed := execute_eq emitter machine statement
  unfold statementBlocks
  cases outcome : machine.evaluate emitter statement.value with
  | mk result middle =>
      rw [outcome] at valueEmits executed
      cases result with
      | error error =>
          rw [executed, List.append_nil]
          exact valueEmits
      | ok value =>
          have emitted : (machine.execute emitter statement).2.emitted =
              emitter.emit middle.emitted (statement.completion (middle.temporaries + 1) value) := by
            rw [executed]
            exact complete_emitted emitter middle value statement
          refine valueEmits.trans (.single ⟨⟨machine, ⟨value, outcome⟩, rfl⟩, rfl, emitted, ?_⟩)
          rw [executed]
          cases statement <;> rfl

/-- The run lemma: a program goes its way block by block, also when it fails. -/
theorem executeAll_emitsBlocks (machine : Machine σ) (program : Program) :
    EmitsBlocks emitter machine (machine.executeAll emitter program).2
      (machine.programBlocks emitter program) := by
  induction program generalizing machine with
  | nil => exact .refl machine
  | cons statement rest inductionHypothesis =>
      have firstEmits : EmitsBlocks emitter machine _ _ := execute_emitsBlocks machine statement
      rw [executeAll_cons, programBlocks]
      cases outcome : machine.execute emitter statement with
      | mk result later =>
          rw [outcome] at firstEmits
          cases result with
          | error error =>
              rw [List.append_nil]
              exact firstEmits
          | ok printed => exact firstEmits.trans (inductionHypothesis later)

theorem afterCall_emitsBlocks (machine : Machine σ) (call : Call) :
    EmitsBlocks emitter machine (machine.afterCall emitter call)
      (machine.callBlocks emitter call) := by
  cases call with
  | evaluate expr => exact evaluate_emitsBlocks expr machine
  | execute statement => exact execute_emitsBlocks machine statement
  | executeAll program => exact executeAll_emitsBlocks machine program

/-- A session goes its way block by block, whatever becomes of its calls. -/
theorem afterCalls_emitsBlocks (machine : Machine σ) (calls : List Call) :
    EmitsBlocks emitter machine (machine.afterCalls emitter calls)
      (machine.sessionBlocks emitter calls) := by
  induction calls generalizing machine with
  | nil => exact .refl machine
  | cons call rest inductionHypothesis =>
      exact (afterCall_emitsBlocks machine call).trans
        (inductionHypothesis (machine.afterCall emitter call))

end

end Machine

end Reckoner
