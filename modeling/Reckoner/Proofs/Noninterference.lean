import Reckoner.Proofs.Blocks

/-!
Contract: variables that an evaluation does not look up have no influence on it.

Two machines may differ in all other variables, in the number of temporaries handed out and in what
was emitted before.  An evaluation on the second one has the same value or the same error, takes
equally many temporaries, and emits the same lines, except that each temporary is moved by the
distance of the two starting points.  This holds of the part of the listing that a failed evaluation
leaves as well.

Owns: moved instructions and blocks, and the agreement of two evaluations block by block.

Does not own: statements, which also set variables.
-/

namespace Reckoner

/-! ### Moved temporaries -/

/-- The second instruction is the first one with its temporary moved by a distance. -/
def Instruction.Moved (distance : Int) (instruction other : Instruction) : Prop :=
  ∃ renumber : Nat → Nat,
    other = instruction.relabelled id renumber ∧
    ∀ temporary, instruction.temporary? = some temporary →
      (renumber temporary : Int) = temporary + distance

/-- The instructions of one origin for one value differ in their temporaries only. -/
theorem Origin.instruction_moved
    (origin : Origin)
    (value : Number)
    {temporary next : Nat}
    {distance : Int}
    (apart : (next : Int) = temporary + distance) :
    (origin.instruction temporary value).Moved distance (origin.instruction next value) := by
  refine ⟨fun _ => next, ?_, ?_⟩
  · cases origin with
    | operation node =>
        obtain ⟨operator, operands, line⟩ := node
        cases operator <;> rfl
    | statement executed => cases executed <;> rfl
  · intro used uses
    have usesOwn : used = temporary := by
      cases origin with
      | operation node =>
          obtain ⟨operator, operands, line⟩ := node
          cases operator <;> exact (Option.some.inj uses).symm
      | statement executed =>
          cases executed with
          | declare name expr line | assign name expr line => cases uses
          | print expr line => exact (Option.some.inj uses).symm
    rw [usesOwn]
    exact apart

structure Block.Moved (distance : Int) (block other : Block) : Prop where
  origin : other.origin = block.origin
  values : other.values = block.values
  temporary : (other.temporary : Int) = block.temporary + distance

theorem Block.Moved.instructions
    {distance : Int}
    {block other : Block}
    (moved : block.Moved distance other) :
    List.Forall₂ (Instruction.Moved distance) block.instructions other.instructions := by
  rw [Block.instructions, Block.instructions, moved.origin, moved.values, List.forall₂_map_left_iff,
    List.forall₂_map_right_iff, List.forall₂_same]
  intro value _
  exact block.origin.instruction_moved value moved.temporary

/-! ### Two evaluations -/

namespace Alike

variable {σ τ α : Type} {machine : Machine σ} {other : Machine τ}
  {performed : Except EvalError α × Machine σ} {image : Except EvalError α × Machine τ}

/-- Either both runs fail with one error, or both end with one value. -/
theorem outcomes (alike : Alike machine other performed image) :
    (∃ error, performed = (.error error, performed.2) ∧ image = (.error error, image.2)) ∨
    ∃ value, performed = (.ok value, performed.2) ∧ image = (.ok value, image.2) := by
  have sameResult := alike.result
  cases ends : performed.1 with
  | error error =>
      rw [ends] at sameResult
      exact .inl ⟨error, Prod.ext ends rfl, Prod.ext sameResult rfl⟩
  | ok value =>
      rw [ends] at sameResult
      exact .inr ⟨value, Prod.ext ends rfl, Prod.ext sameResult rfl⟩

/-- Runs keep the distance between the temporaries of their machines. -/
theorem apart
    (alike : Alike machine other performed image)
    {distance : Int}
    (apart : (other.temporaries : Int) = machine.temporaries + distance) :
    (image.2.temporaries : Int) = performed.2.temporaries + distance := by
  obtain ⟨taken, handedOut, handedOutToo⟩ := alike.temporaries
  rw [handedOut, handedOutToo]
  omega

end Alike

namespace Machine

variable {σ τ : Type} {middle : Machine σ} {otherMiddle : Machine τ} {distance : Int}

private theorem foldBlocks_moved
    (apart : (otherMiddle.temporaries : Int) = middle.temporaries + distance)
    (operator : FoldOperator)
    (operands : List Expr)
    (line : Nat)
    (values : List Number) :
    List.Forall₂ (Block.Moved distance) (middle.foldBlocks operator operands line values)
      (otherMiddle.foldBlocks operator operands line values) := by
  cases values with
  | nil => exact .nil
  | cons first rest =>
      refine .cons ⟨rfl, rfl, ?_⟩ .nil
      show ((otherMiddle.temporaries + 1 : Nat) : Int) =
        (middle.temporaries + 1 : Nat) + distance
      omega

private theorem functionBlocks_moved
    (apart : (otherMiddle.temporaries : Int) = middle.temporaries + distance)
    (operator : FunctionOperator)
    (operands : List Expr)
    (line : Nat)
    (value : Number) :
    List.Forall₂ (Block.Moved distance) (middle.functionBlocks operator operands line value)
      (otherMiddle.functionBlocks operator operands line value) := by
  unfold functionBlocks
  cases Number.call (.function operator) value line with
  | error error => exact .nil
  | ok result =>
      refine .cons ⟨rfl, rfl, ?_⟩ .nil
      show ((otherMiddle.temporaries + 1 : Nat) : Int) =
        (middle.temporaries + 1 : Nat) + distance
      omega

variable {emitter : Emitter σ} {otherEmitter : Emitter τ}

mutual

/-- Where the looked up variables agree, the blocks of two evaluations differ in their temporaries
only, and all by the same distance. -/
theorem blocks_moved
    (expr : Expr)
    {machine : Machine σ}
    {other : Machine τ}
    (agree : ∀ use ∈ expr.uses,
      other.environment.find? use.name = machine.environment.find? use.name)
    (apart : (other.temporaries : Int) = machine.temporaries + distance) :
    List.Forall₂ (Block.Moved distance) (machine.blocks emitter expr)
      (other.blocks otherEmitter expr) := by
  cases expr with
  | number value line => exact .nil
  | identifier name line => exact .nil
  | group inner line => exact blocks_moved inner agree apart
  | operation operator operands line =>
      cases operator with
      | fold step =>
          have operandsMoved := blocksOfAll_moved operands agree apart
          have alike := evaluateAll_alike emitter otherEmitter agree
          rw [blocks, blocks]
          refine List.rel_append operandsMoved ?_
          rcases alike.outcomes with ⟨error, failed, failedToo⟩ | ⟨values, ended, endedToo⟩
          · rw [failed, failedToo]
            exact .nil
          · rw [ended, endedToo]
            exact foldBlocks_moved (alike.apart apart) step operands line values
      | function function =>
          cases operands with
          | nil => exact .nil
          | cons operand others =>
              have operandMoved := blocks_moved operand agree apart
              have alike : Alike machine other (machine.evaluate emitter operand)
                  (other.evaluate otherEmitter operand) :=
                evaluate_alike emitter otherEmitter agree
              rw [blocks, blocks]
              refine List.rel_append operandMoved ?_
              rcases alike.outcomes with ⟨error, failed, failedToo⟩ | ⟨value, ended, endedToo⟩
              · rw [failed, failedToo]
                exact .nil
              · rw [ended, endedToo]
                exact functionBlocks_moved (alike.apart apart) function _ line value

private theorem blocksOfAll_moved
    (exprs : List Expr)
    {machine : Machine σ}
    {other : Machine τ}
    (agree : ∀ use ∈ Expr.usesOfAll exprs,
      other.environment.find? use.name = machine.environment.find? use.name)
    (apart : (other.temporaries : Int) = machine.temporaries + distance) :
    List.Forall₂ (Block.Moved distance) (machine.blocksOfAll emitter exprs)
      (other.blocksOfAll otherEmitter exprs) := by
  cases exprs with
  | nil => exact .nil
  | cons expr rest =>
      obtain ⟨agreeFirst, agreeRest⟩ := List.forall_mem_append.mp agree
      have firstMoved := blocks_moved expr agreeFirst apart
      have alike := evaluate_alike emitter otherEmitter agreeFirst
      -- The first expression sets no variable, so the others find what they would have found.
      have agreeBehind : ∀ use ∈ Expr.usesOfAll rest,
          (other.evaluate otherEmitter expr).2.environment.find? use.name =
            (machine.evaluate emitter expr).2.environment.find? use.name := by
        rw [evaluate_environment, evaluate_environment]
        exact agreeRest
      rw [blocksOfAll, blocksOfAll]
      refine List.rel_append firstMoved ?_
      rcases alike.outcomes with ⟨error, failed, failedToo⟩ | ⟨value, ended, endedToo⟩
      · rw [failed, failedToo]
        exact .nil
      · rw [ended, endedToo]
        exact blocksOfAll_moved rest agreeBehind (alike.apart apart)

end

/-- What an evaluation emits, line by line. -/
theorem evaluate_emitted_lines (machine : Machine σ) (expr : Expr) :
    (machine.evaluate emitter expr).2.emitted =
      (((machine.blocks emitter expr).flatMap Block.instructions).flatMap
        Instruction.lines).foldl emitter.take machine.emitted := by
  have emits : EmitsBlocks emitter machine _ _ := evaluate_emitsBlocks expr machine
  rw [emits.emitted]
  exact List.foldl_flatMap.symm

/-- **An evaluation depends on the variables that it looks up.**  On two machines where these agree,
with any emitters, an expression has the same value or the same error, and takes equally many
temporaries.  The lines that it emits are those of the same instructions, with every temporary moved
by the distance between the temporaries that the two machines had handed out before. -/
theorem evaluation_depends_on_uses
    (emitter : Emitter σ)
    (otherEmitter : Emitter τ)
    {machine : Machine σ}
    {other : Machine τ}
    {expr : Expr}
    (agree : ∀ use ∈ expr.uses, other.valueOf? use.name = machine.valueOf? use.name) :
    let performed := machine.evaluate emitter expr
    let image := other.evaluate otherEmitter expr
    image.1 = performed.1 ∧
    (∃ taken,
      performed.2.temporaries = machine.temporaries + taken ∧
      image.2.temporaries = other.temporaries + taken) ∧
    ∃ instructions others : List Instruction,
      List.Forall₂ (Instruction.Moved (other.temporaries - machine.temporaries))
        instructions others ∧
      performed.2.emitted =
        (instructions.flatMap Instruction.lines).foldl emitter.take machine.emitted ∧
      image.2.emitted =
        (others.flatMap Instruction.lines).foldl otherEmitter.take other.emitted := by
  intro performed image
  have alike : Alike machine other performed image := evaluate_alike emitter otherEmitter agree
  have apart : (other.temporaries : Int) =
      machine.temporaries + (other.temporaries - machine.temporaries : Int) := by omega
  have blocksMoved : List.Forall₂ (Block.Moved (other.temporaries - machine.temporaries))
      (machine.blocks emitter expr) (other.blocks otherEmitter expr) :=
    blocks_moved expr agree apart
  have instructionsMoved := List.rel_flatMap blocksMoved fun _ _ moved => moved.instructions
  exact ⟨alike.result, alike.temporaries, _, _, instructionsMoved,
    evaluate_emitted_lines machine expr, evaluate_emitted_lines other expr⟩

/-- The sine ignores its second operand, which only the second machine knows. -/
theorem evaluation_depends_on_uses_ignoredName :
    let expr : Expr := .operation (.fold .mul)
      [.operation (.function .sin) [.identifier "x" 1, .identifier "y" 1] 1,
        .operation (.fold .add) [.identifier "x" 2, .number (.integer 2) 2] 2] 2
    let machine : Machine Listing := ⟨⟨[("x", .integer 30)]⟩, 0, {}⟩
    let other : Machine Listing := ⟨⟨[("y", .integer 5), ("x", .integer 30)]⟩, 7, {}⟩
    (∀ use ∈ expr.uses, other.valueOf? use.name = machine.valueOf? use.name) ∧
    other.valueOf? "y" ≠ machine.valueOf? "y" ∧
    (other.evaluate Listing.emitter expr).1 = (machine.evaluate Listing.emitter expr).1 ∧
    ∃ instructions others : List Instruction,
      List.Forall₂ (Instruction.Moved 7) instructions others ∧
      (machine.evaluate Listing.emitter expr).2.emitted =
        (instructions.flatMap Instruction.lines).foldl Listing.emitter.take {} ∧
      (other.evaluate Listing.emitter expr).2.emitted =
        (others.flatMap Instruction.lines).foldl Listing.emitter.take {} := by
  intro expr machine other
  have agree : ∀ use ∈ expr.uses, other.valueOf? use.name = machine.valueOf? use.name := by
    decide
  obtain ⟨sameResult, -, emitted⟩ :=
    evaluation_depends_on_uses Listing.emitter Listing.emitter agree
  exact ⟨agree, by decide, sameResult, emitted⟩

end Machine

end Reckoner
