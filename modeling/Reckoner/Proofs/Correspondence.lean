import Reckoner.Proofs.Definedness

/-!
Contract: two runs that correspond step by step.

A second run may call the variables by other names, number its temporaries in another way, and hand
its instructions to another emitter.  A correspondence says which machines of the two runs belong
together.  When it is kept by each basic step, it is kept by every expression, every statement and
every program: both runs yield the same values, or fail with the same error up to the names.

Owns: new labels for expressions, statements, instructions and errors, the correspondence of steps,
and its extension from the basic steps to whole programs.

Does not own: which correspondences the basic steps keep.
-/

namespace Reckoner

/-! ### New labels -/

mutual

/-- An expression with a new name for each variable. -/
def Expr.renamed (rename : String → String) : Expr → Expr
  | .number value line => .number value line
  | .identifier name line => .identifier (rename name) line
  | .group inner line => .group (inner.renamed rename) line
  | .operation operator operands line =>
      .operation operator (Expr.allRenamed rename operands) line

def Expr.allRenamed (rename : String → String) : List Expr → List Expr
  | [] => []
  | expr :: rest => expr.renamed rename :: Expr.allRenamed rename rest

end

def Statement.renamed (rename : String → String) : Statement → Statement
  | .declare name value line => .declare (rename name) (value.renamed rename) line
  | .assign name value line => .assign (rename name) (value.renamed rename) line
  | .print value line => .print (value.renamed rename) line

def EvalError.renamed (rename : String → String) : EvalError → EvalError
  | .undefinedVariable name line => .undefinedVariable (rename name) line
  | .invalidOperand operator fault line => .invalidOperand operator fault line
  | .missingOperand operator line => .missingOperand operator line
  | .divisionByZero line => .divisionByZero line

/-- An instruction with a new name for its variable and a new number for its temporary. -/
def Instruction.relabelled (rename : String → String) (renumber : Nat → Nat) :
    Instruction → Instruction
  | .store name value => .store (rename name) value
  | .fold operator temporary value => .fold operator (renumber temporary) value
  | .call operator temporary value => .call operator (renumber temporary) value
  | .print temporary value => .print (renumber temporary) value

mutual

@[simp]
theorem Expr.renamed_id (expr : Expr) : expr.renamed id = expr := by
  cases expr with
  | number value line => rfl
  | identifier name line => rfl
  | group inner line => rw [renamed, renamed_id inner]
  | operation operator operands line => rw [renamed, allRenamed_id operands]

@[simp]
theorem Expr.allRenamed_id (exprs : List Expr) : Expr.allRenamed id exprs = exprs := by
  cases exprs with
  | nil => rfl
  | cons expr rest => rw [allRenamed, renamed_id expr, allRenamed_id rest]

end

@[simp]
theorem Statement.renamed_id (statement : Statement) : statement.renamed id = statement := by
  cases statement with
  | declare name value line | assign name value line | print value line => simp [renamed]

theorem Statement.map_renamed_id (program : Program) :
    program.map (Statement.renamed id) = program := by
  have unchanged : Statement.renamed id = id := funext renamed_id
  rw [unchanged, List.map_id]

@[simp]
theorem EvalError.renamed_id (error : EvalError) : error.renamed id = error := by
  cases error <;> rfl

@[simp]
theorem Instruction.relabelled_id (instruction : Instruction) :
    instruction.relabelled id id = instruction := by
  cases instruction <;> rfl

namespace Number

/-- The errors of arithmetic name no variable. -/
theorem apply_renamed
    (rename : String → String)
    (left : Number)
    (operator : Operator)
    (right : Number)
    (line : Nat) :
    (left.apply operator right line).mapError (EvalError.renamed rename) =
      left.apply operator right line := by
  unfold apply
  split
  · rfl
  · split <;> rfl

private theorem call_renamed
    (rename : String → String)
    (operator : Operator)
    (operand : Number)
    (line : Nat) :
    (call operator operand line).mapError (EvalError.renamed rename) =
      call operator operand line := by
  unfold call
  split
  · rfl
  · split <;> rfl
  · rfl

end Number

/-! ### Corresponding steps -/

/-- How a second run corresponds to a first one: which machines belong together, how the second run
calls the variables, and how it numbers the temporaries. -/
structure Correspondence (σ τ : Type) where
  machines : Machine σ → Machine τ → Prop
  rename : String → String
  renumber : Nat → Nat

namespace Correspondence

variable {σ τ α β α' β' : Type} (between : Correspondence σ τ)

/-- On machines that belong together, `image` yields what `steps` does after `convert`, or fails
with the renamed error.  The machines that are left belong together again. -/
def Relates (convert : α → α') (steps : Run σ α) (image : Run τ α') : Prop :=
  ∀ machine other, between.machines machine other →
    (other.perform image).1 =
      ((machine.perform steps).1.map convert).mapError (EvalError.renamed between.rename) ∧
    between.machines (machine.perform steps).2 (other.perform image).2

namespace Relates

theorem pure (convert : α → α') (value : α) :
    between.Relates convert (Pure.pure value) (Pure.pure (convert value)) := by
  intro machine other belong
  exact ⟨rfl, belong⟩

theorem throw (convert : α → α') (error : EvalError) :
    between.Relates convert (MonadExcept.throw error)
      (MonadExcept.throw (error.renamed between.rename)) := by
  intro machine other belong
  exact ⟨rfl, belong⟩

/-- Results that name no variable are the same in both runs. -/
theorem ofResult
    {result : Except EvalError α}
    (unnamed : result.mapError (EvalError.renamed between.rename) = result) :
    between.Relates id (Run.ofResult result) (Run.ofResult result) := by
  intro machine other belong
  refine ⟨?_, belong⟩
  have unchanged : result.map id = result := congrFun Except.map_id result
  rw [Machine.perform_ofResult, Machine.perform_ofResult, unchanged, unnamed]

variable {between}

/-- The step lemma of a correspondence: what holds of two steps holds of them in sequence. -/
theorem bind
    {convert : α → α'}
    {convertNext : β → β'}
    {first : Run σ α}
    {imageFirst : Run τ α'}
    {next : α → Run σ β}
    {imageNext : α' → Run τ β'}
    (relatesFirst : between.Relates convert first imageFirst)
    (relatesNext : ∀ value, between.Relates convertNext (next value) (imageNext (convert value))) :
    between.Relates convertNext (first >>= next) (imageFirst >>= imageNext) := by
  intro machine other belong
  have start := relatesFirst machine other belong
  rw [Machine.perform_bind, Machine.perform_bind]
  generalize machine.perform first = performed at start ⊢
  generalize other.perform imageFirst = imagePerformed at start ⊢
  obtain ⟨result, later⟩ := performed
  obtain ⟨imageResult, imageLater⟩ := imagePerformed
  obtain ⟨sameResult, belongLater⟩ := start
  -- The first run decides the case; the second one cannot fail where the first goes on.
  cases result with
  | error error =>
      obtain rfl : imageResult = .error (error.renamed between.rename) := sameResult
      exact ⟨rfl, belongLater⟩
  | ok value =>
      obtain rfl : imageResult = .ok (convert value) := sameResult
      exact relatesNext value later imageLater belongLater

/-- Where the variables keep their names, both runs have the same result. -/
theorem sameResult
    {steps : Run σ α}
    {image : Run τ α}
    (relates : between.Relates id steps image)
    (keepsNames : between.rename = id)
    {machine : Machine σ}
    {other : Machine τ}
    (belong : between.machines machine other) :
    (other.perform image).1 = (machine.perform steps).1 := by
  have renamedResult := (relates machine other belong).1
  rw [keepsNames] at renamedResult
  rw [renamedResult]
  cases (machine.perform steps).1 with
  | ok value => rfl
  | error error => exact congrArg Except.error error.renamed_id

end Relates

/-! ### Expressions -/

/-- The correspondence is kept when a temporary is handed out and when an instruction is emitted. -/
structure KeptByEmission (emitter : Emitter σ) (imageEmitter : Emitter τ) : Prop where
  freshTemporary : between.Relates between.renumber Run.freshTemporary Run.freshTemporary
  emit : ∀ instruction : Instruction, between.Relates id (Run.emit emitter instruction)
    (Run.emit imageEmitter (instruction.relabelled between.rename between.renumber))

/-- A look-up in the second run finds what the look-up in the first run does. -/
def KeptByLookUp (name : String) (line : Nat) : Prop :=
  between.Relates id (Run.variableValue name line : Run σ Number)
    (Run.variableValue (between.rename name) line)

section

variable {between} {emitter : Emitter σ} {imageEmitter : Emitter τ}
  (kept : between.KeptByEmission emitter imageEmitter)
include kept

private theorem relates_foldSteps
    (operator : FoldOperator)
    (line temporary : Nat)
    (result : Number)
    (operands : List Number) :
    between.Relates id (Run.foldSteps emitter operator line temporary result operands)
      (Run.foldSteps imageEmitter operator line (between.renumber temporary) result operands) := by
  induction operands generalizing result with
  | nil => exact .pure between id result
  | cons operand rest inductionHypothesis =>
      apply Relates.bind (.ofResult between (Number.apply_renamed _ _ _ _ _))
      intro next
      apply Relates.bind (kept.emit (.fold operator temporary operand))
      intro _
      exact inductionHypothesis next

private theorem relates_foldValues (operator : FoldOperator) (line : Nat) (values : List Number) :
    between.Relates id (Run.foldValues emitter operator line values)
      (Run.foldValues imageEmitter operator line values) := by
  cases values with
  | nil => exact .throw between id (.missingOperand (.fold operator) line)
  | cons first rest =>
      apply Relates.bind kept.freshTemporary
      intro temporary
      exact relates_foldSteps kept operator line temporary first rest

private theorem relates_callFunction (operator : FunctionOperator) (line : Nat) (operand : Number) :
    between.Relates id (Run.callFunction emitter operator line operand)
      (Run.callFunction imageEmitter operator line operand) := by
  apply Relates.bind (.ofResult between (Number.call_renamed _ _ _ _))
  intro result
  apply Relates.bind kept.freshTemporary
  intro temporary
  apply Relates.bind (kept.emit (.call operator temporary operand))
  intro _
  exact .pure between id result

end

section

variable {between} {emitter : Emitter σ} {imageEmitter : Emitter τ}

mutual

/-- An expression corresponds to the renamed one when the look-ups do that its evaluation makes. -/
theorem relates_evaluate
    (kept : between.KeptByEmission emitter imageEmitter)
    (expr : Expr)
    (lookUps : ∀ use ∈ expr.uses, between.KeptByLookUp use.name use.line) :
    between.Relates id (Run.evaluate emitter expr)
      (Run.evaluate imageEmitter (expr.renamed between.rename)) := by
  cases expr with
  | number value line => exact .pure between id value
  | identifier name line => exact lookUps ⟨name, line⟩ List.mem_cons_self
  | group inner line => exact relates_evaluate kept inner lookUps
  | operation operator operands line =>
      cases operator with
      | fold step =>
          apply Relates.bind (relates_evaluateAll kept operands lookUps)
          intro values
          exact relates_foldValues kept step line values
      | function function =>
          cases operands with
          | nil => exact .throw between id (.missingOperand (.function function) line)
          | cons operand rest =>
              apply Relates.bind (relates_evaluate kept operand lookUps)
              intro value
              exact relates_callFunction kept function line value

theorem relates_evaluateAll
    (kept : between.KeptByEmission emitter imageEmitter)
    (exprs : List Expr)
    (lookUps : ∀ use ∈ Expr.usesOfAll exprs, between.KeptByLookUp use.name use.line) :
    between.Relates id (Run.evaluateAll emitter exprs)
      (Run.evaluateAll imageEmitter (Expr.allRenamed between.rename exprs)) := by
  cases exprs with
  | nil => exact .pure between id []
  | cons expr rest =>
      have lookUpsFirst : ∀ use ∈ expr.uses, between.KeptByLookUp use.name use.line := by
        intro use member
        exact lookUps use (List.mem_append_left _ member)
      have lookUpsRest : ∀ use ∈ Expr.usesOfAll rest,
          between.KeptByLookUp use.name use.line := by
        intro use member
        exact lookUps use (List.mem_append_right _ member)
      apply Relates.bind (relates_evaluate kept expr lookUpsFirst)
      intro value
      apply Relates.bind (relates_evaluateAll kept rest lookUpsRest)
      intro values
      exact .pure between id (value :: values)

end

end

/-! ### Statements and programs -/

/-- The correspondence is kept by every basic step. -/
structure Kept (emitter : Emitter σ) (imageEmitter : Emitter τ) : Prop
    extends between.KeptByEmission emitter imageEmitter where
  lookUp : ∀ name line, between.KeptByLookUp name line
  setVariable : ∀ name value, between.Relates id (Run.setVariable name value)
    (Run.setVariable (between.rename name) value)

section

variable {between} {emitter : Emitter σ} {imageEmitter : Emitter τ}
  (kept : between.Kept emitter imageEmitter)
include kept

theorem relates_expression (expr : Expr) :
    between.Relates id (Run.evaluate emitter expr)
      (Run.evaluate imageEmitter (expr.renamed between.rename)) := by
  apply relates_evaluate kept.toKeptByEmission
  intro use _
  exact kept.lookUp use.name use.line

private theorem relates_define (name : String) (value : Expr) :
    between.Relates id (Run.define emitter name value)
      (Run.define imageEmitter (between.rename name) (value.renamed between.rename)) := by
  apply Relates.bind (relates_expression kept value)
  intro result
  apply Relates.bind (kept.setVariable name result)
  intro _
  exact kept.emit (.store name result)

/-- Every kept correspondence extends to statements. -/
theorem relates_execute (statement : Statement) :
    between.Relates id (Run.execute emitter statement)
      (Run.execute imageEmitter (statement.renamed between.rename)) := by
  cases statement with
  | declare name value line | assign name value line =>
      apply Relates.bind (relates_define kept name value)
      intro _
      exact .pure between id none
  | print value line =>
      apply Relates.bind (relates_expression kept value)
      intro result
      apply Relates.bind kept.freshTemporary
      intro temporary
      apply Relates.bind (kept.emit (.print temporary result))
      intro _
      exact .pure between id (some result)

/-- A program corresponds to the renamed one, statement by statement. -/
theorem relates_executeAll (program : Program) :
    between.Relates id (Run.executeAll emitter program)
      (Run.executeAll imageEmitter (program.map (Statement.renamed between.rename))) := by
  induction program with
  | nil => exact .pure between id []
  | cons statement rest inductionHypothesis =>
      apply Relates.bind (relates_execute kept statement)
      intro printed
      apply Relates.bind inductionHypothesis
      intro values
      exact .pure between id (printed.toList ++ values)

end

end Correspondence

end Reckoner
