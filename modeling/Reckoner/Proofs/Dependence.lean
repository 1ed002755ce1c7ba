import Reckoner.Proofs.Correspondence

/-!
Contract: an evaluation depends on the variables that it looks up, and on nothing else.

Two machines may differ in all other variables, in the number of temporaries handed out and in what
was emitted before.  The evaluations on them go step by step together.  They take equally many
temporaries and emit the same instructions, each with the temporaries counted from its own start.

Owns: machines in the course of two such evaluations, and that both end alike.

Does not own: statements, which also set variables.
-/

namespace Reckoner

section Agreeing

variable {σ τ : Type} (emitter : Emitter σ) (otherEmitter : Emitter τ)
  (start : Machine σ) (otherStart : Machine τ) (uses : List Use)

/-- The temporary that the second evaluation takes where the first one takes `temporary`. -/
def shiftedTemporary (temporary : Nat) : Nat :=
  temporary - start.temporaries + otherStart.temporaries

/-- Machines in the course of two evaluations that started on `start` and `otherStart`. -/
structure Agreeing (machine : Machine σ) (other : Machine τ) : Prop where
  values : ∀ use ∈ uses,
    other.environment.find? use.name = machine.environment.find? use.name
  temporaries : ∃ taken,
    machine.temporaries = start.temporaries + taken ∧
    other.temporaries = otherStart.temporaries + taken
  emitted : ∃ instructions : List Instruction,
    machine.emitted = instructions.foldl emitter.emit start.emitted ∧
    other.emitted =
      (instructions.map (Instruction.relabelled id (shiftedTemporary start otherStart))).foldl
        otherEmitter.emit otherStart.emitted

/-- Before the first step nothing was taken and nothing was emitted. -/
theorem Agreeing.initial
    {emitter : Emitter σ}
    {otherEmitter : Emitter τ}
    {start : Machine σ}
    {otherStart : Machine τ}
    {uses : List Use}
    (agree : ∀ use ∈ uses,
      otherStart.environment.find? use.name = start.environment.find? use.name) :
    Agreeing emitter otherEmitter start otherStart uses start otherStart where
  values := agree
  temporaries := ⟨0, rfl, rfl⟩
  emitted := ⟨[], rfl, rfl⟩

end Agreeing

namespace Correspondence

variable {σ τ : Type} (emitter : Emitter σ) (otherEmitter : Emitter τ)
  (start : Machine σ) (otherStart : Machine τ) (uses : List Use)

/-- An evaluation beside one that starts on another machine. -/
def agreeing : Correspondence σ τ where
  machines := Agreeing emitter otherEmitter start otherStart uses
  rename := id
  renumber := shiftedTemporary start otherStart

private theorem agreeing_keptByEmission :
    (agreeing emitter otherEmitter start otherStart uses).KeptByEmission emitter otherEmitter where
  freshTemporary := by
    rintro machine other ⟨values, ⟨taken, handedOut, handedOutToo⟩, emitted⟩
    have sameTemporary : other.temporaries + 1 =
        shiftedTemporary start otherStart (machine.temporaries + 1) := by
      unfold shiftedTemporary
      omega
    refine ⟨congrArg Except.ok sameTemporary, values, ⟨taken + 1, ?_, ?_⟩, emitted⟩
    · exact congrArg (· + 1) handedOut
    · exact congrArg (· + 1) handedOutToo
  emit := by
    rintro instruction machine other ⟨values, temporaries, instructions, emitted, emittedToo⟩
    refine ⟨rfl, values, temporaries, instructions ++ [instruction], ?_, ?_⟩
    · rw [Machine.perform_emit, emitted, List.foldl_append]
      rfl
    · rw [Machine.perform_emit, emittedToo, List.map_append, List.foldl_append]
      rfl

private theorem agreeing_lookUp {use : Use} (looksUp : use ∈ uses) :
    (agreeing emitter otherEmitter start otherStart uses).KeptByLookUp use.name use.line := by
  intro machine other agree
  rw [Machine.perform_variableValue, Machine.perform_variableValue]
  refine ⟨?_, agree⟩
  have sameValue : other.environment.find? ((agreeing emitter otherEmitter start otherStart
      uses).rename use.name) = machine.environment.find? use.name := agree.values use looksUp
  simp only [sameValue]
  cases machine.environment.find? use.name <;> rfl

end Correspondence

/-- Two runs from `machine` and `other` that yield the same and take equally many temporaries. -/
structure Alike
    {σ τ α : Type}
    (machine : Machine σ)
    (other : Machine τ)
    (performed : Except EvalError α × Machine σ)
    (image : Except EvalError α × Machine τ) : Prop where
  result : image.1 = performed.1
  temporaries : ∃ taken,
    performed.2.temporaries = machine.temporaries + taken ∧
    image.2.temporaries = other.temporaries + taken

namespace Machine

variable {σ τ : Type} {machine : Machine σ} {other : Machine τ}

/-- Steps that go together from where the looked up variables agree end alike. -/
theorem alike_of_relates
    {α : Type}
    {emitter : Emitter σ}
    {otherEmitter : Emitter τ}
    {uses : List Use}
    {steps : Run σ α}
    {image : Run τ α}
    (relates : (Correspondence.agreeing emitter otherEmitter machine other uses).Relates id
      steps image)
    (agree : ∀ use ∈ uses,
      other.environment.find? use.name = machine.environment.find? use.name) :
    Alike machine other (machine.perform steps) (other.perform image) where
  result := relates.sameResult rfl (.initial agree)
  temporaries := (relates machine other (.initial agree)).2.temporaries

/-- Where the looked up variables agree, evaluations go together from their start to their end. -/
theorem evaluate_alike
    (emitter : Emitter σ)
    (otherEmitter : Emitter τ)
    {expr : Expr}
    (agree : ∀ use ∈ expr.uses,
      other.environment.find? use.name = machine.environment.find? use.name) :
    Alike machine other (machine.evaluate emitter expr) (other.evaluate otherEmitter expr) := by
  have relates := Correspondence.relates_evaluate
    (Correspondence.agreeing_keptByEmission emitter otherEmitter machine other expr.uses) expr
    (fun _ looksUp => Correspondence.agreeing_lookUp _ _ _ _ _ looksUp)
  have sameNames : expr.renamed (Correspondence.agreeing emitter otherEmitter machine other
      expr.uses).rename = expr := expr.renamed_id
  rw [sameNames] at relates
  exact alike_of_relates relates agree

theorem evaluateAll_alike
    (emitter : Emitter σ)
    (otherEmitter : Emitter τ)
    {exprs : List Expr}
    (agree : ∀ use ∈ Expr.usesOfAll exprs,
      other.environment.find? use.name = machine.environment.find? use.name) :
    Alike machine other (machine.perform (Run.evaluateAll emitter exprs))
      (other.perform (Run.evaluateAll otherEmitter exprs)) := by
  have relates := Correspondence.relates_evaluateAll
    (Correspondence.agreeing_keptByEmission emitter otherEmitter machine other
      (Expr.usesOfAll exprs)) exprs
    (fun _ looksUp => Correspondence.agreeing_lookUp _ _ _ _ _ looksUp)
  have sameNames : Expr.allRenamed (Correspondence.agreeing emitter otherEmitter machine other
      (Expr.usesOfAll exprs)).rename exprs = exprs := Expr.allRenamed_id exprs
  rw [sameNames] at relates
  exact alike_of_relates relates agree

/-- Only the variables that an expression looks up have a say in its result. -/
theorem evaluate_result_eq
    (emitter : Emitter σ)
    (otherEmitter : Emitter τ)
    {expr : Expr}
    (agree : ∀ use ∈ expr.uses,
      other.environment.find? use.name = machine.environment.find? use.name) :
    (other.evaluate otherEmitter expr).1 = (machine.evaluate emitter expr).1 :=
  (evaluate_alike emitter otherEmitter agree).result

end Machine

end Reckoner
