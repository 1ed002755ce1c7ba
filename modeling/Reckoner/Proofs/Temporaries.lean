import Mathlib.Algebra.GroupWithZero.Nat
import Mathlib.Data.List.Pairwise
import Mathlib.Data.List.Perm.Basic
import Reckoner.Proofs.Blocks

/-!
Contract: temporaries and the sizes of the listings follow from the syntax.

When a program succeeds, each operation that its evaluation comes to has a block of its own, and so
has each statement.  None of them is cut short, so the temporaries and the lines can be counted in
the program.  In every session, calls that fail included, the blocks are those of an initial part of
the syntax, and their temporaries are numbered in order.  So a temporary is never used again behind
its block.

Owns: the blocks of what succeeds, the numbers of temporaries and lines, and the order of
temporaries in a listing.

Does not own: the texts of the lines.
-/

namespace Reckoner

/-! ### Origins in the syntax -/

def operationsOf (program : Program) : List Operation :=
  program.flatMap fun statement => statement.value.operations

/-- What emits instructions while a statement is executed, in order: first the operations of its
expression, then the statement itself. -/
def Statement.origins (statement : Statement) : List Origin :=
  statement.value.operations.map .operation ++ [.statement statement]

def originsOf (program : Program) : List Origin :=
  program.flatMap Statement.origins

def Call.origins : Call → List Origin
  | .evaluate expr => expr.operations.map .operation
  | .execute statement => statement.origins
  | .executeAll program => originsOf program

/-- Apart from their order, the origins of a program are its operations and its statements. -/
theorem originsOf_perm (program : Program) :
    (originsOf program).Perm
      ((operationsOf program).map .operation ++ program.map .statement) := by
  rw [operationsOf, List.map_flatMap, List.map_eq_flatMap]
  exact (List.flatMap_append_perm program _ _).symm

/-! ### Blocks of what succeeds -/

/-- The blocks are those of the given origins in order, and none was cut short. -/
structure CompleteBlocks (blocks : List Block) (origins : List Origin) : Prop where
  origins_eq : blocks.map Block.origin = origins
  lengths : ∀ block ∈ blocks, block.values.length = block.origin.instructionCount

namespace CompleteBlocks

variable {blocks further : List Block} {origins others : List Origin}

theorem nil : CompleteBlocks [] [] where
  origins_eq := rfl
  lengths := by simp

theorem single
    {block : Block}
    (complete : block.values.length = block.origin.instructionCount) :
    CompleteBlocks [block] [block.origin] where
  origins_eq := rfl
  lengths := by simpa using complete

theorem append
    (first : CompleteBlocks blocks origins)
    (second : CompleteBlocks further others) :
    CompleteBlocks (blocks ++ further) (origins ++ others) where
  origins_eq := by rw [List.map_append, first.origins_eq, second.origins_eq]
  lengths := List.forall_mem_append.mpr ⟨first.lengths, second.lengths⟩

end CompleteBlocks

namespace Machine

section

variable {σ : Type} {emitter : Emitter σ}

/-- A fold that succeeds has operands, and its steps succeed from the first on. -/
theorem exists_values_of_evaluate_fold
    {machine later : Machine σ}
    {operator : FoldOperator}
    {operands : List Expr}
    {line : Nat}
    {value : Number}
    (evaluates : machine.evaluate emitter (.operation (.fold operator) operands line) =
      (.ok value, later)) :
    ∃ first rest middle,
      machine.perform (Run.evaluateAll emitter operands) = (.ok (first :: rest), middle) ∧
      first.foldFrom operator line rest = .ok value := by
  obtain ⟨values, middle, evaluatesAll, -⟩ := (perform_bind_eq_ok_iff _ _ _ _ _).mp evaluates
  cases values with
  | nil =>
      rw [evaluate, Run.evaluate, perform_bind, evaluatesAll] at evaluates
      cases evaluates
  | cons first rest =>
      rw [evaluate_fold evaluatesAll operator line] at evaluates
      exact ⟨first, rest, middle, evaluatesAll, congrArg Prod.fst evaluates⟩

private theorem foldBlocks_complete
    {machine middle : Machine σ}
    {operands : List Expr}
    {first : Number}
    {rest : List Number}
    {operator : FoldOperator}
    {line : Nat}
    {value : Number}
    (evaluatesAll : machine.perform (Run.evaluateAll emitter operands) =
      (.ok (first :: rest), middle))
    (folded : first.foldFrom operator line rest = .ok value) :
    CompleteBlocks (middle.foldBlocks operator operands line (first :: rest))
      [.operation ⟨.fold operator, operands, line⟩] := by
  refine .single ?_
  have count := length_of_evaluateAll evaluatesAll
  simp only [Number.combined_of_ok folded, Origin.instructionCount, Operation.instructionCount]
  rw [← count, List.length_cons, Nat.add_sub_cancel]

mutual

/-- An evaluation that succeeds has a complete block for each operation that it comes to. -/
theorem blocks_complete
    (expr : Expr)
    {machine later : Machine σ}
    {value : Number}
    (evaluates : machine.evaluate emitter expr = (.ok value, later)) :
    CompleteBlocks (machine.blocks emitter expr) (expr.operations.map .operation) := by
  cases expr with
  | number value line => exact .nil
  | identifier name line => exact .nil
  | group inner line => exact blocks_complete inner evaluates
  | operation operator operands line =>
      cases operator with
      | fold step =>
          obtain ⟨first, rest, middle, evaluatesAll, folded⟩ :=
            exists_values_of_evaluate_fold evaluates
          have operandsComplete := blocksOfAll_complete operands evaluatesAll
          rw [blocks, evaluatesAll, Expr.operations, List.map_append]
          exact operandsComplete.append (foldBlocks_complete evaluatesAll folded)
      | function function =>
          cases operands with
          | nil => cases evaluates
          | cons operand others =>
              obtain ⟨operandValue, middle, evaluatesOperand, called⟩ :=
                (perform_bind_eq_ok_iff _ _ _ _ _).mp evaluates
              have evaluatesFirst : machine.evaluate emitter operand =
                  (.ok operandValue, middle) := evaluatesOperand
              have operandComplete := blocks_complete operand evaluatesFirst
              obtain ⟨result, _, inDomain, -⟩ := (perform_bind_eq_ok_iff _ _ _ _ _).mp called
              have calledOk : Number.call (.function function) operandValue line = .ok result :=
                congrArg Prod.fst inDomain
              rw [blocks, evaluatesFirst, Expr.operations, List.map_append]
              simp only [functionBlocks, calledOk]
              exact operandComplete.append (.single rfl)

private theorem blocksOfAll_complete
    (exprs : List Expr)
    {machine later : Machine σ}
    {values : List Number}
    (evaluates : machine.perform (Run.evaluateAll emitter exprs) = (.ok values, later)) :
    CompleteBlocks (machine.blocksOfAll emitter exprs)
      ((Expr.operationsOfAll exprs).map .operation) := by
  cases exprs with
  | nil => exact .nil
  | cons expr rest =>
      obtain ⟨value, middle, evaluatesExpr, evaluatesBehind⟩ :=
        (perform_bind_eq_ok_iff _ _ _ _ _).mp evaluates
      have evaluatesFirst : machine.evaluate emitter expr = (.ok value, middle) := evaluatesExpr
      obtain ⟨others, last, evaluatesRest, -⟩ :=
        (perform_bind_eq_ok_iff _ _ _ _ _).mp evaluatesBehind
      have firstComplete := blocks_complete expr evaluatesFirst
      have restComplete := blocksOfAll_complete rest evaluatesRest
      rw [blocksOfAll, evaluatesFirst, Expr.operationsOfAll, List.map_append]
      exact firstComplete.append restComplete

end

private theorem statementBlocks_complete
    {machine evaluated : Machine σ}
    {statement : Statement}
    {value : Number}
    (evaluates : machine.evaluate emitter statement.value = (.ok value, evaluated)) :
    CompleteBlocks (machine.statementBlocks emitter statement) statement.origins := by
  have valueComplete := blocks_complete statement.value evaluates
  rw [statementBlocks, evaluates]
  exact valueComplete.append (.single rfl)

/-- A program that succeeds has a complete block for each of its origins. -/
theorem programBlocks_complete
    {program : Program}
    {machine later : Machine σ}
    (executes : machine.Executes emitter program later) :
    CompleteBlocks (machine.programBlocks emitter program) (originsOf program) := by
  induction program generalizing machine with
  | nil => exact .nil
  | cons statement rest inductionHypothesis =>
      obtain ⟨value, evaluated, evaluates, executesRest⟩ :=
        (executes_cons_iff _ _ _ _ _).mp executes
      have statementComplete := statementBlocks_complete evaluates
      have executed := execute_eq emitter machine statement
      rw [evaluates] at executed
      rw [programBlocks, executed]
      exact statementComplete.append (inductionHypothesis executesRest)

/-! ### Blocks of what may fail -/

private theorem origins_foldBlocks_isPrefix
    (middle : Machine σ)
    (operator : FoldOperator)
    (operands : List Expr)
    (line : Nat)
    (values : List Number) :
    (middle.foldBlocks operator operands line values).map Block.origin <+:
      [.operation ⟨.fold operator, operands, line⟩] := by
  cases values with
  | nil => exact List.nil_prefix
  | cons first rest => exact List.prefix_refl _

private theorem origins_functionBlocks_isPrefix
    (middle : Machine σ)
    (operator : FunctionOperator)
    (operands : List Expr)
    (line : Nat)
    (value : Number) :
    (middle.functionBlocks operator operands line value).map Block.origin <+:
      [.operation ⟨.function operator, operands, line⟩] := by
  unfold functionBlocks
  cases Number.call (.function operator) value line with
  | error error => exact List.nil_prefix
  | ok result => exact List.prefix_refl _

mutual

/-- Whatever its result is, the blocks of an evaluation are those of the first operations that it
comes to. -/
theorem origins_blocks_isPrefix (expr : Expr) (machine : Machine σ) :
    (machine.blocks emitter expr).map Block.origin <+: expr.operations.map .operation := by
  cases expr with
  | number value line => exact List.nil_prefix
  | identifier name line => exact List.nil_prefix
  | group inner line => exact origins_blocks_isPrefix inner machine
  | operation operator operands line =>
      cases operator with
      | fold step =>
          have operandsFirst := origins_blocksOfAll_isPrefix operands machine
          rw [blocks, Expr.operations, List.map_append, List.map_append]
          -- Only behind operands that succeed is their part of the list complete, and only there
          -- does the fold add to it.
          cases outcome : machine.perform (Run.evaluateAll emitter operands) with
          | mk result middle =>
              cases result with
              | error error =>
                  rw [List.map_nil, List.append_nil]
                  exact operandsFirst.trans (List.prefix_append _ _)
              | ok values =>
                  rw [(blocksOfAll_complete operands outcome).origins_eq]
                  exact (List.prefix_append_right_inj _).mpr
                    (origins_foldBlocks_isPrefix middle step operands line values)
      | function function =>
          cases operands with
          | nil => exact List.nil_prefix
          | cons operand others =>
              have operandFirst := origins_blocks_isPrefix operand machine
              rw [blocks, Expr.operations, List.map_append, List.map_append]
              cases outcome : machine.evaluate emitter operand with
              | mk result middle =>
                  cases result with
                  | error error =>
                      rw [List.map_nil, List.append_nil]
                      exact operandFirst.trans (List.prefix_append _ _)
                  | ok value =>
                      rw [(blocks_complete operand outcome).origins_eq]
                      exact (List.prefix_append_right_inj _).mpr
                        (origins_functionBlocks_isPrefix middle function _ line value)

private theorem origins_blocksOfAll_isPrefix (exprs : List Expr) (machine : Machine σ) :
    (machine.blocksOfAll emitter exprs).map Block.origin <+:
      (Expr.operationsOfAll exprs).map .operation := by
  cases exprs with
  | nil => exact List.nil_prefix
  | cons expr rest =>
      have exprFirst := origins_blocks_isPrefix expr machine
      rw [blocksOfAll, Expr.operationsOfAll, List.map_append, List.map_append]
      cases outcome : machine.evaluate emitter expr with
      | mk result middle =>
          cases result with
          | error error =>
              rw [List.map_nil, List.append_nil]
              exact exprFirst.trans (List.prefix_append _ _)
          | ok value =>
              rw [(blocks_complete expr outcome).origins_eq]
              exact (List.prefix_append_right_inj _).mpr (origins_blocksOfAll_isPrefix rest middle)

end

private theorem origins_statementBlocks_isPrefix (statement : Statement) (machine : Machine σ) :
    (machine.statementBlocks emitter statement).map Block.origin <+: statement.origins := by
  cases outcome : machine.evaluate emitter statement.value with
  | mk result evaluated =>
      cases result with
      | error error =>
          rw [statementBlocks, outcome, List.append_nil]
          exact (origins_blocks_isPrefix statement.value machine).trans (List.prefix_append _ _)
      | ok value =>
          have allOrigins := (statementBlocks_complete outcome).origins_eq
          exact ⟨[], by rw [List.append_nil, allOrigins]⟩

/-- A program that fails stops within the sequence of its origins. -/
theorem origins_programBlocks_isPrefix (program : Program) (machine : Machine σ) :
    (machine.programBlocks emitter program).map Block.origin <+: originsOf program := by
  induction program generalizing machine with
  | nil => exact List.nil_prefix
  | cons statement rest inductionHypothesis =>
      have statementFirst :
          (machine.statementBlocks emitter statement).map Block.origin <+: statement.origins :=
        origins_statementBlocks_isPrefix statement machine
      have executed := execute_eq emitter machine statement
      rw [programBlocks, originsOf, List.flatMap_cons, List.map_append, executed]
      cases outcome : machine.evaluate emitter statement.value with
      | mk result evaluated =>
          cases result with
          | error error =>
              rw [List.map_nil, List.append_nil]
              exact statementFirst.trans (List.prefix_append _ _)
          | ok value =>
              rw [(statementBlocks_complete outcome).origins_eq]
              exact (List.prefix_append_right_inj _).mpr (inductionHypothesis _)

theorem origins_callBlocks_isPrefix (call : Call) (machine : Machine σ) :
    (machine.callBlocks emitter call).map Block.origin <+: call.origins := by
  cases call with
  | evaluate expr => exact origins_blocks_isPrefix expr machine
  | execute statement => exact origins_statementBlocks_isPrefix statement machine
  | executeAll program => exact origins_programBlocks_isPrefix program machine

end

end Machine

/-! ### Numbers of temporaries and lines -/

def Origin.isPrint : Origin → Bool
  | .operation _ => false
  | .statement executed => executed.isPrint

def Origin.assemblyCount (origin : Origin) : Nat :=
  origin.instructionCount + if origin.isPrint then 1 else 0

/-- The number of lines of three-address code that a program emits when it succeeds: one for each
statement, and those of the operations that it comes to. -/
def lineCount (program : Program) : Nat :=
  program.length + ((operationsOf program).map Operation.instructionCount).sum

private theorem countP_takesTemporary_originsOf (program : Program) :
    (originsOf program).countP Origin.takesTemporary =
      (operationsOf program).length + program.countP Statement.isPrint := by
  rw [(originsOf_perm program).countP_eq, List.countP_append, List.countP_map, List.countP_map]
  exact congrArg (· + _) (List.countP_eq_length.mpr fun _ _ => rfl)

private theorem sum_instructionCount_originsOf (program : Program) :
    ((originsOf program).map Origin.instructionCount).sum = lineCount program := by
  rw [((originsOf_perm program).map _).sum_nat, List.map_append, List.sum_append, List.map_map,
    List.map_map, lineCount, Nat.add_comm]
  refine congrArg₂ (· + ·) ?_ rfl
  have ones : program.map (Origin.instructionCount ∘ .statement) = program.map fun _ => 1 := rfl
  rw [ones, List.map_const', List.sum_replicate_nat, Nat.mul_one]

private theorem sum_assemblyCount (origins : List Origin) :
    (origins.map Origin.assemblyCount).sum =
      (origins.map Origin.instructionCount).sum + origins.countP Origin.isPrint := by
  induction origins with
  | nil => rfl
  | cons origin rest inductionHypothesis =>
      rw [List.map_cons, List.sum_cons, inductionHypothesis, List.map_cons, List.sum_cons,
        List.countP_cons, Origin.assemblyCount]
      omega

private theorem countP_isPrint_originsOf (program : Program) :
    (originsOf program).countP Origin.isPrint = program.countP Statement.isPrint := by
  rw [(originsOf_perm program).countP_eq, List.countP_append, List.countP_map, List.countP_map]
  have noneOfOperations : (operationsOf program).countP (Origin.isPrint ∘ .operation) = 0 :=
    List.countP_eq_zero.mpr fun _ _ => Bool.false_ne_true
  rw [noneOfOperations, Nat.zero_add]
  rfl

/-- A computation has one line of assembly. -/
theorem Origin.length_assembly_operation (node : Operation) (temporary : Nat) (value : Number) :
    ((Origin.operation node).instruction temporary value).assembly.length = 1 := by
  obtain ⟨operator, operands, line⟩ := node
  cases operator <;> rfl

private theorem Block.length_assembly
    {block : Block}
    (complete : block.values.length = block.origin.instructionCount) :
    (block.instructions.flatMap Instruction.assembly).length = block.origin.assemblyCount := by
  obtain ⟨origin, temporary, values⟩ := block
  cases origin with
  | operation node =>
      rw [Block.instructions, List.flatMap_map, List.length_flatMap]
      simp only [Origin.length_assembly_operation]
      rw [List.map_const', List.sum_replicate_nat, Nat.mul_one]
      exact complete
  | statement executed =>
      -- A statement is never cut short: it emits for its one value or not at all.
      obtain ⟨value, rfl⟩ := List.length_eq_one_iff.mp complete
      cases executed <;> rfl

namespace CompleteBlocks

variable {blocks : List Block} {origins : List Origin}

private theorem length_temporaries (complete : CompleteBlocks blocks origins) :
    (blocks.filterMap Block.temporary?).length = origins.countP Origin.takesTemporary := by
  rw [← complete.origins_eq, List.countP_map, List.length_filterMap_eq_countP]
  refine List.countP_congr fun block _ => ?_
  rw [Block.temporary?, Function.comp_apply]
  cases block.origin.takesTemporary <;> simp

private theorem length_instructions (complete : CompleteBlocks blocks origins) :
    (blocks.flatMap Block.instructions).length =
      (origins.map Origin.instructionCount).sum := by
  rw [List.length_flatMap, ← complete.origins_eq, List.map_map]
  refine congrArg List.sum (List.map_congr_left fun block member => ?_)
  rw [Block.instructions, List.length_map]
  exact complete.lengths block member

private theorem length_assembly (complete : CompleteBlocks blocks origins) :
    ((blocks.flatMap Block.instructions).flatMap Instruction.assembly).length =
      (origins.map Origin.assemblyCount).sum := by
  rw [List.flatMap_assoc, List.length_flatMap, ← complete.origins_eq, List.map_map]
  exact congrArg List.sum
    (List.map_congr_left fun block member => Block.length_assembly (complete.lengths block member))

end CompleteBlocks

/-- The temporaries and the lines of a program that succeeds are those of its syntax. -/
theorem Machine.Executes.sizes
    {machine later : Machine Listing}
    {program : Program}
    (executes : machine.Executes Listing.emitter program later) :
    later.temporaries =
      machine.temporaries + ((operationsOf program).length + program.countP Statement.isPrint) ∧
    later.emitted.threeAddress.length =
      machine.emitted.threeAddress.length + lineCount program ∧
    later.emitted.assembly.length =
      machine.emitted.assembly.length +
        (lineCount program + program.countP Statement.isPrint) := by
  have complete := Machine.programBlocks_complete executes
  have emits : EmitsBlocks Listing.emitter machine later
      (machine.programBlocks Listing.emitter program) := by
    obtain ⟨printed, executed⟩ := executes
    have emits : EmitsBlocks Listing.emitter machine _ _ :=
      Machine.executeAll_emitsBlocks machine program
    rw [executed] at emits
    exact emits
  refine ⟨?_, ?_, ?_⟩
  · rw [emits.temporaries, complete.length_temporaries, countP_takesTemporary_originsOf]
  · rw [emits.emitted, Listing.threeAddress_foldl_emit, List.length_append, List.length_map,
      complete.length_instructions, sum_instructionCount_originsOf]
  · rw [emits.emitted, Listing.assembly_foldl_emit, List.length_append, complete.length_assembly,
      sum_assemblyCount, sum_instructionCount_originsOf, countP_isPrint_originsOf]

/-! ### Order of the temporaries -/

namespace Block

def threeAddress (block : Block) : List String :=
  block.instructions.map Instruction.threeAddress

def assembly (block : Block) : List String :=
  block.instructions.flatMap Instruction.assembly

end Block

/-- The blocks between two states of a listing keep the temporaries apart. -/
structure SeparatesTemporaries (earlier later : Listing) (blocks : List Block) : Prop where
  /-- In the order of the instructions, temporaries never decrease. -/
  ordered : ((blocks.flatMap Block.instructions).filterMap Instruction.temporary?).Pairwise (· ≤ ·)
  /-- Instructions with one temporary are those of one block, which is one part of each listing. -/
  together : ∀ instruction ∈ blocks.flatMap Block.instructions, ∀ temporary,
    instruction.temporary? = some temporary →
    ∃ first block rest, blocks = first ++ block :: rest ∧
      (∀ own ∈ block.instructions, own.temporary? = some temporary) ∧
      (∀ other ∈ (first ++ rest).flatMap Block.instructions, other.temporary? ≠ some temporary) ∧
      later.threeAddress = earlier.threeAddress ++ first.flatMap Block.threeAddress ++
        block.threeAddress ++ rest.flatMap Block.threeAddress ∧
      later.assembly = earlier.assembly ++ first.flatMap Block.assembly ++
        block.assembly ++ rest.flatMap Block.assembly

namespace EmitsBlocks

section

variable {σ : Type} {emitter : Emitter σ} {before after : Machine σ} {blocks : List Block}

/-- The temporary of a block is greater than all before it. -/
theorem pairwise_temporary?_lt (emits : EmitsBlocks emitter before after blocks) :
    blocks.Pairwise fun block further =>
      ∀ temporary, block.temporary? = some temporary →
        ∀ next, further.temporary? = some next → temporary < next := by
  apply List.pairwise_filterMap.mp
  rw [emits.numbered]
  exact List.pairwise_lt_range' 1

private theorem pairwise_temporaries_le (emits : EmitsBlocks emitter before after blocks) :
    ((blocks.flatMap Block.instructions).filterMap Instruction.temporary?).Pairwise (· ≤ ·) := by
  refine List.pairwise_filterMap.mpr (List.pairwise_flatMap.mpr ⟨?_, ?_⟩)
  -- Within a block all temporaries are the same, and from block to block they increase.
  · intro block _
    refine List.pairwise_of_forall_mem_list ?_
    intro instruction member other otherMember temporary uses next usesNext
    rw [Block.temporary?_of_mem_instructions member] at uses
    rw [Block.temporary?_of_mem_instructions otherMember, uses] at usesNext
    exact Nat.le_of_eq (Option.some.inj usesNext)
  · refine emits.pairwise_temporary?_lt.imp ?_
    intro block further less instruction member other otherMember temporary uses next usesNext
    rw [Block.temporary?_of_mem_instructions member] at uses
    rw [Block.temporary?_of_mem_instructions otherMember] at usesNext
    exact Nat.le_of_lt (less temporary uses next usesNext)

/-- No other block takes the temporary of a block. -/
theorem temporary?_ne
    {first rest : List Block}
    {block other : Block}
    {temporary : Nat}
    (emits : EmitsBlocks emitter before after (first ++ block :: rest))
    (takes : block.temporary? = some temporary)
    (member : other ∈ first ++ rest) :
    other.temporary? ≠ some temporary := by
  intro takesToo
  obtain ⟨-, behindBlock, acrossBlock⟩ := List.pairwise_append.mp emits.pairwise_temporary?_lt
  rcases List.mem_append.mp member with inFirst | inRest
  · exact Nat.lt_irrefl temporary
      (acrossBlock other inFirst block List.mem_cons_self temporary takesToo temporary takes)
  · exact Nat.lt_irrefl temporary
      ((List.pairwise_cons.mp behindBlock).1 other inRest temporary takes temporary takesToo)

end

/-- The lines around one of the blocks. -/
theorem listings_split
    {before after : Machine Listing}
    {first rest : List Block}
    {block : Block}
    (emits : EmitsBlocks Listing.emitter before after (first ++ block :: rest)) :
    after.emitted.threeAddress = before.emitted.threeAddress ++ first.flatMap Block.threeAddress ++
        block.threeAddress ++ rest.flatMap Block.threeAddress ∧
      after.emitted.assembly = before.emitted.assembly ++ first.flatMap Block.assembly ++
        block.assembly ++ rest.flatMap Block.assembly := by
  rw [emits.emitted, Listing.threeAddress_foldl_emit, Listing.assembly_foldl_emit,
    List.map_flatMap, List.flatMap_assoc, List.flatMap_append, List.flatMap_cons,
    List.flatMap_append, List.flatMap_cons]
  constructor
  · simp only [List.append_assoc]
    rfl
  · simp only [List.append_assoc]
    rfl

/-- Blocks in sequence keep their temporaries apart. -/
theorem separatesTemporaries
    {before after : Machine Listing}
    {blocks : List Block}
    (emits : EmitsBlocks Listing.emitter before after blocks) :
    SeparatesTemporaries before.emitted after.emitted blocks where
  ordered := emits.pairwise_temporaries_le
  together := by
    intro instruction member temporary uses
    obtain ⟨block, inBlocks, inBlock⟩ := List.mem_flatMap.mp member
    obtain ⟨first, rest, rfl⟩ := List.append_of_mem inBlocks
    have takes : block.temporary? = some temporary := by
      rw [← Block.temporary?_of_mem_instructions inBlock, uses]
    refine ⟨first, block, rest, rfl, ?_, ?_, emits.listings_split⟩
    · intro own ownMember
      rw [Block.temporary?_of_mem_instructions ownMember, takes]
    · intro other otherMember
      obtain ⟨source, inOthers, inSource⟩ := List.mem_flatMap.mp otherMember
      rw [Block.temporary?_of_mem_instructions inSource]
      exact emits.temporary?_ne takes inOthers

end EmitsBlocks

namespace Machine

/-- Temporaries and the sizes of the listings follow from the syntax.  When a program succeeds, each
operation that it comes to takes a temporary, and so does each print statement.  A fold adds a line
for each operand behind the first, a function adds one, a statement adds one, and a print statement
adds a second one to the assembly.  During a call that may fail, the operations and statements that
emit instructions are the first ones of its syntax.  In every session the instructions come in
blocks, one for each evaluation of an operation and each execution of a statement.  Temporaries never
decrease, and each of them is used in one block only. -/
theorem temporaries_determined_by_program (machine : Machine Listing) :
    (∀ program later, machine.Executes Listing.emitter program later →
      later.temporaries =
        machine.temporaries + ((operationsOf program).length + program.countP Statement.isPrint) ∧
      later.emitted.threeAddress.length =
        machine.emitted.threeAddress.length + lineCount program ∧
      later.emitted.assembly.length =
        machine.emitted.assembly.length +
          (lineCount program + program.countP Statement.isPrint)) ∧
    (∀ call, (machine.callBlocks Listing.emitter call).map Block.origin <+: call.origins) ∧
    (∀ calls,
      EmitsBlocks Listing.emitter machine (machine.afterCalls Listing.emitter calls)
        (machine.sessionBlocks Listing.emitter calls) ∧
      SeparatesTemporaries machine.emitted (machine.afterCalls Listing.emitter calls).emitted
        (machine.sessionBlocks Listing.emitter calls)) := by
  refine ⟨fun _ _ executes => executes.sizes, ?_, ?_⟩
  · exact fun call => origins_callBlocks_isPrefix call machine
  · intro calls
    have emits : EmitsBlocks Listing.emitter machine _ _ := afterCalls_emitsBlocks machine calls
    exact ⟨emits, emits.separatesTemporaries⟩

/-- The second operand of a function is not evaluated, so its product takes no temporary. -/
theorem temporaries_determined_by_program_ignoredOperand :
    ∃ later,
      fresh.Executes Listing.emitter
        [.print (.operation (.function .sin)
          [.operation (.fold .add)
            [.number (.integer 1) 1, .number (.integer 2) 1, .number (.integer 3) 1] 1,
          .operation (.fold .mul) [.number (.integer 4) 1, .number (.integer 5) 1] 1] 1) 1] later ∧
      later.temporaries = 3 ∧
      later.emitted.threeAddress.length = 4 ∧
      later.emitted.assembly.length = 5 := by
  refine Exists.imp (fun later executes => ⟨executes, ?_⟩) ⟨_, _, rfl⟩
  exact (temporaries_determined_by_program fresh).1 _ later executes

end Machine

end Reckoner
