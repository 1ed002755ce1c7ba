import Reckoner.Machine
import Reckoner.Program.Parse
import Reckoner.Scope
import Reckoner.Token.Scan

/-!
Contract: a script from its text to its results.

Owns: the order of the stages, each of which starts only when the one before it succeeded, and the
results of a run.

Does not own: the stages themselves, and the presentation of the results.
-/

namespace Reckoner

structure Compilation where
  tokens : List PlacedToken
  program : Program
  output : String
  threeAddress : String
  assembly : String
deriving DecidableEq

/-- Runs a script with no variable declared beforehand. -/
def run (source : String) : Except Failure Compilation := do
  let tokens ← (Token.scan source).mapError .scan
  let program ← (Parse.program tokens).mapError .grammar
  (Declarations.check .empty program).1.mapError .scope
  let (result, machine) := Machine.fresh.executeAll Listing.emitter program
  let printed ← result.mapError .eval
  return {
    tokens
    program
    output := Machine.outputText printed
    threeAddress := Listing.join machine.emitted.threeAddress
    assembly := Listing.join machine.emitted.assembly
  }

end Reckoner
