import Reckoner.Proofs.Folds

/-!
Contract: which failure of a fold comes first, and what is left behind it.

A fold evaluates all its operands before it combines any of them.  So an operand without a value
decides the error, however far to the right it stands, and the machine is where the operands up to
it leave it: the fold has no temporary yet and has emitted nothing.  When all operands have values,
the fold takes its temporary, and the first step that fails leaves the instructions of the steps
before it.

Owns: the leftmost operand that fails, and the machine behind it and behind a step that fails.

Does not own: folds without operands, which fail before both.
-/

namespace Reckoner

namespace Number

variable {operator : FoldOperator} {line : Nat}

/-- A step that fails decides the result of the fold, whatever operands follow. -/
theorem foldFrom_of_step_error
    {start running operand : Number}
    {done : List Number}
    {error : EvalError}
    (folded : start.foldFrom operator line done = .ok running)
    (refused : running.apply (.fold operator) operand line = .error error)
    (others : List Number) :
    start.foldFrom operator line (done ++ operand :: others) = .error error := by
  rw [foldFrom_append_of_ok folded, foldFrom_cons_of_error refused]

/-- The operands before the step that fails are those that were combined. -/
theorem combined_of_step_error
    {start running operand : Number}
    {done : List Number}
    {error : EvalError}
    (folded : start.foldFrom operator line done = .ok running)
    (refused : running.apply (.fold operator) operand line = .error error)
    (others : List Number) :
    start.combined operator line (done ++ operand :: others) = done := by
  induction done generalizing start with
  | nil =>
      obtain rfl : start = running := Except.ok.inj folded
      rw [List.nil_append, combined, refused]
  | cons next rest inductionHypothesis =>
      obtain ⟨following, applied, foldedRest⟩ := (foldFrom_cons_eq_ok_iff _ _ _ _).mp folded
      rw [List.cons_append, combined, applied]
      exact congrArg (next :: ·) (inductionHypothesis foldedRest)

end Number

namespace Machine

section

variable {σ : Type} {emitter : Emitter σ} {machine : Machine σ}

/-! ### The leftmost operand that fails -/

/-- The leftmost expression that fails ends the evaluation.  Nothing behind it is evaluated. -/
theorem HasValues.evaluateAll_eq_error
    {before : List Expr}
    {values : List Number}
    (hasValues : machine.HasValues emitter before values)
    {failing : Expr}
    {error : EvalError}
    (failed : (machine.evaluate emitter failing).1 = .error error)
    (after : List Expr) :
    machine.perform (Run.evaluateAll emitter (before ++ failing :: after)) =
      (.error error, machine.afterAll emitter (before ++ [failing])) := by
  induction before generalizing machine values with
  | nil =>
      have fails : machine.perform (Run.evaluate emitter failing) =
          (.error error, (machine.evaluate emitter failing).2) := Prod.ext failed rfl
      rw [List.nil_append, Run.evaluateAll, perform_bind, fails]
      rfl
  | cons expr rest inductionHypothesis =>
      obtain ⟨value, others, hasValue, hasOthers, rfl⟩ := List.forall₂_cons_left_iff.mp hasValues
      have evaluates : machine.perform (Run.evaluate emitter expr) =
          (.ok value, (machine.evaluate emitter expr).2) := Prod.ext hasValue rfl
      have failsBehind : ((machine.evaluate emitter expr).2.evaluate emitter failing).1 =
          .error error := by
        rw [evaluate_result_behind, failed]
      have failsRest := inductionHypothesis (HasValues.behind hasOthers expr) failsBehind
      rw [List.cons_append, Run.evaluateAll, perform_bind, evaluates]
      simp only [perform_bind, failsRest]
      rfl

/-- Of the expressions that fail one is the leftmost. -/
theorem exists_leftmost_failing
    {exprs : List Expr}
    (fails : ∃ expr ∈ exprs, ∃ error, (machine.evaluate emitter expr).1 = .error error) :
    ∃ before failing after values error,
      exprs = before ++ failing :: after ∧
      machine.HasValues emitter before values ∧
      (machine.evaluate emitter failing).1 = .error error := by
  induction exprs with
  | nil =>
      obtain ⟨expr, member, -⟩ := fails
      cases member
  | cons first rest inductionHypothesis =>
      cases outcome : (machine.evaluate emitter first).1 with
      | error error => exact ⟨[], first, rest, [], error, rfl, .nil, outcome⟩
      | ok value =>
          have failsBehind :
              ∃ expr ∈ rest, ∃ error, (machine.evaluate emitter expr).1 = .error error := by
            obtain ⟨expr, member, error, failed⟩ := fails
            rcases List.mem_cons.mp member with same | inRest
            · rw [same, outcome] at failed
              cases failed
            · exact ⟨expr, inRest, error, failed⟩
          obtain ⟨before, failing, after, values, error, split, hasValues, failed⟩ :=
            inductionHypothesis failsBehind
          refine ⟨first :: before, failing, after, value :: values, error, ?_, ?_, failed⟩
          · rw [split, List.cons_append]
          · exact .cons outcome hasValues

/-! ### Folds that fail -/

/-- A fold fails with its operands. -/
theorem evaluate_fold_of_operands_error
    {operands : List Expr}
    {error : EvalError}
    {later : Machine σ}
    (failed : machine.perform (Run.evaluateAll emitter operands) = (.error error, later))
    (operator : FoldOperator)
    (line : Nat) :
    machine.evaluate emitter (.operation (.fold operator) operands line) =
      (.error error, later) := by
  rw [evaluate, Run.evaluate, perform_bind, failed]

variable (emitter) in
/-- The machine on which a fold has taken its temporary and combined the given operands. -/
def afterFoldSteps (machine : Machine σ) (operator : FoldOperator) (done : List Number) :
    Machine σ :=
  { machine with
    temporaries := machine.temporaries + 1
    emitted := (done.map (.fold operator (machine.temporaries + 1))).foldl emitter.emit
      machine.emitted }

/-- A step that is refused ends the fold: the steps before it are written, and the temporary stays
taken. -/
theorem HasValues.evaluate_fold_of_step_error
    {operands : List Expr}
    {first running operand : Number}
    {done others : List Number}
    {operator : FoldOperator}
    {line : Nat}
    {error : EvalError}
    (hasValues : machine.HasValues emitter operands (first :: (done ++ operand :: others)))
    (folded : first.foldFrom operator line done = .ok running)
    (refused : running.apply (.fold operator) operand line = .error error) :
    machine.evaluate emitter (.operation (.fold operator) operands line) =
      (.error error, (machine.afterAll emitter operands).afterFoldSteps emitter operator done) := by
  rw [evaluate_fold hasValues.evaluateAll_eq operator line,
    Number.foldFrom_of_step_error folded refused others,
    Number.combined_of_step_error folded refused others]
  rfl

end

/-- A fold has one line in each listing for each operand that it has combined. -/
theorem listings_afterFoldSteps
    (machine : Machine Listing)
    (operator : FoldOperator)
    (done : List Number) :
    let written := done.map (Instruction.fold operator (machine.temporaries + 1))
    let later := machine.afterFoldSteps Listing.emitter operator done
    later.emitted.threeAddress =
      machine.emitted.threeAddress ++ written.map Instruction.threeAddress ∧
    later.emitted.assembly = machine.emitted.assembly ++ written.flatMap Instruction.assembly ∧
    later.emitted.threeAddress.length = machine.emitted.threeAddress.length + done.length ∧
    later.emitted.assembly.length = machine.emitted.assembly.length + done.length := by
  intro written later
  have threeAddress : later.emitted.threeAddress =
      machine.emitted.threeAddress ++ written.map Instruction.threeAddress :=
    Listing.threeAddress_foldl_emit _ _
  have assembly : later.emitted.assembly =
      machine.emitted.assembly ++ written.flatMap Instruction.assembly :=
    Listing.assembly_foldl_emit _ _
  refine ⟨threeAddress, assembly, ?_, ?_⟩
  · rw [threeAddress, List.length_append, List.length_map, List.length_map]
  · rw [assembly, List.length_append, List.flatMap_map, List.length_flatMap]
    have ones : done.map (fun value => (Instruction.fold operator (machine.temporaries + 1)
        value).assembly.length) = done.map fun _ => 1 := rfl
    rw [ones, List.map_const', List.sum_replicate_nat, Nat.mul_one]

/-- **Failures of a fold come in order.**  If an operand has no value, the fold fails with the error
of the leftmost such operand, and leaves the machine that the operands up to this one leave when
they are evaluated one after the other: nothing is left of the fold itself.  If all operands have
values and a step is the first to fail, the fold fails with the error of this step, on the line of
the fold.  Behind the operands it has taken one temporary, and it has emitted one instruction for
each step before, which is one line in each listing. -/
theorem fold_failures_in_order
    {σ : Type}
    (emitter : Emitter σ)
    (machine : Machine σ)
    (operator : FoldOperator)
    (operands : List Expr)
    (line : Nat) :
    ((∃ operand ∈ operands, ∃ error, (machine.evaluate emitter operand).1 = .error error) →
      ∃ before failing after values error,
        operands = before ++ failing :: after ∧
        machine.HasValues emitter before values ∧
        (machine.evaluate emitter failing).1 = .error error ∧
        machine.evaluate emitter (.operation (.fold operator) operands line) =
          (.error error, machine.afterAll emitter (before ++ [failing]))) ∧
    (∀ first done operand others running error,
      machine.HasValues emitter operands (first :: (done ++ operand :: others)) →
      first.foldFrom operator line done = .ok running →
      running.apply (.fold operator) operand line = .error error →
      error = .divisionByZero line ∧
      machine.evaluate emitter (.operation (.fold operator) operands line) =
        (.error error, (machine.afterAll emitter operands).afterFoldSteps emitter operator done)) ∧
    ∀ (listed : Machine Listing) (done : List Number),
      let written := done.map (Instruction.fold operator (listed.temporaries + 1))
      let later := listed.afterFoldSteps Listing.emitter operator done
      later.emitted.threeAddress =
        listed.emitted.threeAddress ++ written.map Instruction.threeAddress ∧
      later.emitted.assembly = listed.emitted.assembly ++ written.flatMap Instruction.assembly ∧
      later.emitted.threeAddress.length = listed.emitted.threeAddress.length + done.length ∧
      later.emitted.assembly.length = listed.emitted.assembly.length + done.length := by
  refine ⟨?_, ?_, ?_⟩
  · intro fails
    obtain ⟨before, failing, after, values, error, split, hasValues, failed⟩ :=
      exists_leftmost_failing fails
    have failsInOrder := hasValues.evaluateAll_eq_error failed after
    rw [← split] at failsInOrder
    exact ⟨before, failing, after, values, error, split, hasValues, failed,
      evaluate_fold_of_operands_error failsInOrder operator line⟩
  · intro first done operand others running error hasValues folded refused
    have divides := (Number.apply_fold_eq_error_iff _ _ _ _ _).mp refused
    exact ⟨divides.2, hasValues.evaluate_fold_of_step_error folded refused⟩
  · intro listed done
    exact listings_afterFoldSteps listed operator done

/-- The second remainder is by zero, and leaves the line of the first one.  An unknown name behind
the zero is reported in its place. -/
theorem fold_failures_in_order_remainder :
    let operands : List Expr := [.number (.integer 9) 1, .number (.integer 5) 1,
      .number (.integer 0) 1, .number (.integer 2) 1]
    let named : List Expr := operands ++ [.identifier "y" 2]
    fresh.HasValues Listing.emitter operands [.integer 9, .integer 5, .integer 0, .integer 2] ∧
    Number.foldFrom .mod 1 (.integer 9) [.integer 5] = .ok (.integer 4) ∧
    Number.apply (.integer 4) (.fold .mod) (.integer 0) 1 = .error (.divisionByZero 1) ∧
    fresh.evaluate Listing.emitter (.operation (.fold .mod) operands 1) =
      (.error (.divisionByZero 1), (fresh.afterAll Listing.emitter operands).afterFoldSteps
        Listing.emitter .mod [.integer 5]) ∧
    (∃ operand ∈ named, ∃ error, (fresh.evaluate Listing.emitter operand).1 = .error error) ∧
    ∃ before failing after,
      named = before ++ failing :: after ∧
      fresh.evaluate Listing.emitter (.operation (.fold .mod) named 1) =
        (.error (.undefinedVariable "y" 2),
          fresh.afterAll Listing.emitter (before ++ [failing])) := by
  intro operands named
  have hasValues : fresh.HasValues Listing.emitter operands
      [.integer 9, .integer 5, .integer 0, .integer 2] :=
    .cons rfl (.cons rfl (.cons rfl (.cons rfl .nil)))
  have folded : Number.foldFrom .mod 1 (.integer 9) [.integer 5] = .ok (.integer 4) := by
    decide +kernel
  have refused : Number.apply (.integer 4) (.fold .mod) (.integer 0) 1 =
      .error (.divisionByZero 1) := by
    decide +kernel
  have failed := ((fold_failures_in_order Listing.emitter fresh .mod operands 1).2.1
    _ _ _ _ _ _ hasValues folded refused).2
  have fails : ∃ operand ∈ named, ∃ error,
      (fresh.evaluate Listing.emitter operand).1 = .error error :=
    ⟨.identifier "y" 2, by simp [named], .undefinedVariable "y" 2, rfl⟩
  obtain ⟨before, failing, after, -, error, split, -, -, evaluates⟩ :=
    (fold_failures_in_order Listing.emitter fresh .mod named 1).1 fails
  have reported : (fresh.evaluate Listing.emitter (.operation (.fold .mod) named 1)).1 =
      .error (.undefinedVariable "y" 2) := rfl
  obtain rfl : error = .undefinedVariable "y" 2 := by
    rw [evaluates] at reported
    exact Except.error.inj reported
  exact ⟨hasValues, folded, refused, failed, fails, before, failing, after, split, evaluates⟩

end Machine

end Reckoner
