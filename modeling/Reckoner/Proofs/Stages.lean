import Reckoner.Compilation

/-!
Contract: the stages of a run, one after the other.

A run ends in the failure of the first stage that fails, or with the results of all of them.  Each
way to end comes with what every stage up to that point yielded, so nothing else has to open the
definition of a run.

Owns: the ways in which a run ends, and the condition under which it succeeds.

Does not own: what a single stage does.
-/

namespace Reckoner

/-- The stages behind the reader: the check of declarations, and the run when it succeeds. -/
def afterReading (tokens : List PlacedToken) (program : Program) : Except Failure Compilation :=
  match (Declarations.check .empty program).1 with
  | .error error => .error (.scope error)
  | .ok () =>
      match Machine.fresh.executeAll Listing.emitter program with
      | (.error error, _) => .error (.eval error)
      | (.ok printed, machine) =>
          .ok {
            tokens
            program
            output := Machine.outputText printed
            threeAddress := Listing.join machine.emitted.threeAddress
            assembly := Listing.join machine.emitted.assembly
          }

theorem mapError_ok {ε ε' α : Type} (convert : ε → ε') (value : α) :
    (Except.ok value).mapError convert = .ok value := rfl

theorem run_of_scan
    {source : String}
    {tokens : List PlacedToken}
    (scanned : Token.scan source = .ok tokens) :
    run source =
      match Parse.program tokens with
      | .error error => .error (.grammar error)
      | .ok program => afterReading tokens program := by
  simp only [run, scanned, mapError_ok, bind, Except.bind, pure, Except.pure]
  cases Parse.program tokens with
  | error error => rfl
  | ok program =>
      simp only [afterReading, mapError_ok]
      cases (Declarations.check .empty program).1 with
      | error error => rfl
      | ok checked =>
          simp only [mapError_ok]
          cases Machine.fresh.executeAll Listing.emitter program with
          | mk result machine => cases result <;> rfl

/-- How a run ends.  The last stage that was started fails, or there is none left to fail; every
stage before it succeeded. -/
inductive Ending (source : String) : Except Failure Compilation → Prop where
  | scan {error : ScanError}
      (scanned : Token.scan source = .error error) :
      Ending source (.error (.scan error))
  | grammar {tokens : List PlacedToken} {error : GrammarError}
      (scanned : Token.scan source = .ok tokens)
      (read : Parse.program tokens = .error error) :
      Ending source (.error (.grammar error))
  | scope {tokens : List PlacedToken} {program : Program} {error : ScopeError}
      (scanned : Token.scan source = .ok tokens)
      (read : Parse.program tokens = .ok program)
      (checked : (Declarations.check .empty program).1 = .error error) :
      Ending source (.error (.scope error))
  | eval {tokens : List PlacedToken} {program : Program} {error : EvalError}
      {machine : Machine Listing}
      (scanned : Token.scan source = .ok tokens)
      (read : Parse.program tokens = .ok program)
      (checked : (Declarations.check .empty program).1 = .ok ())
      (executed : Machine.fresh.executeAll Listing.emitter program = (.error error, machine)) :
      Ending source (.error (.eval error))
  | success {tokens : List PlacedToken} {program : Program} {printed : List Number}
      {machine : Machine Listing}
      (scanned : Token.scan source = .ok tokens)
      (read : Parse.program tokens = .ok program)
      (checked : (Declarations.check .empty program).1 = .ok ())
      (executed : Machine.fresh.executeAll Listing.emitter program = (.ok printed, machine)) :
      Ending source (.ok {
        tokens
        program
        output := Machine.outputText printed
        threeAddress := Listing.join machine.emitted.threeAddress
        assembly := Listing.join machine.emitted.assembly
      })

/-- Every run ends in one of five ways. -/
theorem run_ending (source : String) : Ending source (run source) := by
  cases scanned : Token.scan source with
  | error error =>
      have failed : run source = .error (.scan error) := by
        rw [run, scanned]
        rfl
      rw [failed]
      exact .scan scanned
  | ok tokens =>
      rw [run_of_scan scanned]
      cases read : Parse.program tokens with
      | error error => exact .grammar scanned read
      | ok program =>
          simp only [afterReading]
          cases checked : (Declarations.check .empty program).1 with
          | error error => exact .scope scanned read checked
          | ok nothing =>
              cases executed : Machine.fresh.executeAll Listing.emitter program with
              | mk result machine =>
                  cases result with
                  | error error => exact .eval scanned read checked executed
                  | ok printed => exact .success scanned read checked executed

/-- A run succeeds when every stage does, and yields what they yield. -/
theorem run_eq_ok_iff (source : String) (compilation : Compilation) :
    run source = .ok compilation ↔
      Token.scan source = .ok compilation.tokens ∧
      Parse.program compilation.tokens = .ok compilation.program ∧
      (Declarations.check .empty compilation.program).1 = .ok () ∧
      ∃ printed machine,
        Machine.fresh.executeAll Listing.emitter compilation.program = (.ok printed, machine) ∧
        compilation.output = Machine.outputText printed ∧
        compilation.threeAddress = Listing.join machine.emitted.threeAddress ∧
        compilation.assembly = Listing.join machine.emitted.assembly := by
  constructor
  · intro succeeds
    have ending := run_ending source
    rw [succeeds] at ending
    cases ending with
    | success scanned read checked executed =>
        exact ⟨scanned, read, checked, _, _, executed, rfl, rfl, rfl⟩
  · obtain ⟨tokens, program, output, threeAddress, assembly⟩ := compilation
    rintro ⟨scanned, read, checked, printed, machine, executed, rfl, rfl, rfl⟩
    rw [run_of_scan scanned, read]
    simp only [afterReading, checked, executed]

end Reckoner
