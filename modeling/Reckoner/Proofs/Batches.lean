import Reckoner.Proofs.OutputText

/-!
Contract: a program may be executed in parts.

A machine keeps its variables, its temporaries and its lines from one program to the next.  So two
programs that are executed one after the other leave the machine that the program of all their
statements leaves, and fail where it fails.  The output of the whole is made of the outputs of the
parts, and in the end of what the single statements return: each of its lines is the text of one
value that a print statement returned.

Owns: the output of a program as a text, the joining of outputs, and what statements return one
after the other.

Does not own: the value of a single expression.
-/

namespace Reckoner.Machine

variable {σ : Type} (emitter : Emitter σ)

/-! ### Outputs in parts -/

/-- Executes a program on a machine; the result is the output as one text. -/
def executeText (machine : Machine σ) (program : Program) : Except EvalError String × Machine σ :=
  ((machine.executeAll emitter program).1.map outputText, (machine.executeAll emitter program).2)

/-- One output behind the other, on a line of its own.  An empty output has no line. -/
def joinOutputs (first second : String) : String :=
  if first = "" then second
  else if second = "" then first
  else first ++ "\n" ++ second

private theorem outputText_append (first second : List Number) :
    outputText (first ++ second) = joinOutputs (outputText first) (outputText second) := by
  unfold joinOutputs
  by_cases noFirst : first = []
  · subst noFirst
    rw [if_pos ((outputText_eq_empty_iff _).mpr rfl), List.nil_append]
  · rw [if_neg (mt (outputText_eq_empty_iff first).mp noFirst)]
    by_cases noSecond : second = []
    · subst noSecond
      rw [if_pos ((outputText_eq_empty_iff _).mpr rfl), List.append_nil]
    · rw [if_neg (mt (outputText_eq_empty_iff second).mp noSecond)]
      unfold outputText
      rw [List.map_append, String.intercalate_append_of_ne_nil (by simpa using noFirst)
        (by simpa using noSecond)]

private theorem exists_printed_of_executeText
    {emitter : Emitter σ}
    {machine later : Machine σ}
    {program : Program}
    {output : String}
    (executed : machine.executeText emitter program = (.ok output, later)) :
    ∃ printed, machine.executeAll emitter program = (.ok printed, later) ∧
      outputText printed = output := by
  unfold executeText at executed
  generalize machine.executeAll emitter program = performed at executed ⊢
  obtain ⟨result, reached⟩ := performed
  cases result with
  | error error => cases executed
  | ok printed =>
      cases executed
      exact ⟨printed, rfl, rfl⟩

/-- A program in two parts puts out what the parts do, and stops where the first failure is. -/
theorem executeText_append (machine : Machine σ) (first second : Program) :
    machine.executeText emitter (first ++ second) =
      match machine.executeText emitter first with
      | (.error error, later) => (.error error, later)
      | (.ok output, later) =>
          match later.executeText emitter second with
          | (.error error, last) => (.error error, last)
          | (.ok more, last) => (.ok (joinOutputs output more), last) := by
  simp only [executeText, executeAll_append]
  cases machine.executeAll emitter first with
  | mk result later =>
      cases result with
      | error error => rfl
      | ok printed =>
          simp only [Except.map]
          obtain ⟨outcome, last⟩ := later.executeAll emitter second
          cases outcome with
          | error error => rfl
          | ok further => simp only [outputText_append]

/-! ### Statement by statement -/

/-- The statements of a program succeed one after the other.  `returned` lists what each of them
returns, and `later` is the machine behind the last one. -/
inductive Returns : Machine σ → Program → List (Option Number) → Machine σ → Prop where
  | done (machine : Machine σ) : Returns machine [] [] machine
  | step
      {machine middle later : Machine σ}
      {statement : Statement}
      {rest : Program}
      {value : Option Number}
      {returned : List (Option Number)}
      (executed : machine.execute emitter statement = (.ok value, middle))
      (others : Returns middle rest returned later) :
      Returns machine (statement :: rest) (value :: returned) later

variable {emitter} {machine later : Machine σ} {program : Program}

/-- A program prints what its statements return. -/
theorem exists_returns
    {printed : List Number}
    (executed : machine.executeAll emitter program = (.ok printed, later)) :
    ∃ returned, Returns emitter machine program returned later ∧
      returned.reduceOption = printed := by
  induction program generalizing machine printed with
  | nil =>
      obtain ⟨⟨⟩, rfl⟩ := Prod.mk.inj executed
      exact ⟨[], .done machine, rfl⟩
  | cons statement rest inductionHypothesis =>
      obtain ⟨value, middle, others, first, behind, rfl⟩ :=
        (executeAll_cons_eq_ok_iff _ _ _ _ _ _).mp executed
      obtain ⟨returned, returns, rfl⟩ := inductionHypothesis behind
      refine ⟨value :: returned, .step first returns, ?_⟩
      cases value <;> rfl

/-- Exactly the print statements return a value. -/
theorem Returns.isSome_eq_isPrint
    {returned : List (Option Number)}
    (returns : Returns emitter machine program returned later) :
    List.Forall₂ (fun statement value => value.isSome = statement.isPrint) program returned := by
  induction returns with
  | done machine => exact .nil
  | step executed others inductionHypothesis =>
      exact .cons (isSome_of_execute executed) inductionHypothesis

variable (emitter machine) in
/-- **Executing in batches is executing at once.**  On any machine, the statements of two programs
together do what the two programs do one after the other: they leave the same machine, they fail
with the same error, and they yield the two outputs, with a line break between them when both are
there.  The lines of an output are the texts of what the print statements return one by one, and an
output is empty exactly when the program has no print statement. -/
theorem batches_execute_as_whole :
    (∀ first second : Program,
      machine.executeText emitter (first ++ second) =
        match machine.executeText emitter first with
        | (.error error, later) => (.error error, later)
        | (.ok output, later) =>
            match later.executeText emitter second with
            | (.error error, last) => (.error error, last)
            | (.ok more, last) => (.ok (joinOutputs output more), last)) ∧
    (∀ program output later, machine.executeText emitter program = (.ok output, later) →
      (∃ returned, Returns emitter machine program returned later ∧
        List.Forall₂ (fun statement value => value.isSome = statement.isPrint) program returned ∧
        textLines output = returned.reduceOption.map Number.text) ∧
      (output = "" ↔ program.any Statement.isPrint = false)) := by
  refine ⟨executeText_append emitter machine, ?_⟩
  intro program output later executed
  obtain ⟨printed, executedAll, rfl⟩ := exists_printed_of_executeText executed
  obtain ⟨returned, returns, rfl⟩ := exists_returns executedAll
  refine ⟨⟨returned, returns, returns.isSome_eq_isPrint, ?_⟩, ?_⟩
  · exact textLines_outputText _
  · exact outputText_eq_empty_iff_noPrint executedAll

end Reckoner.Machine
