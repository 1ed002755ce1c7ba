import Reckoner.Machine
import Reckoner.Program.Parse
import Reckoner.Scope
import Reckoner.Token.Scan

/-!
Contract: what the stages of a run report about themselves.

A stage that succeeds reports once; a run also reports every line that it writes, as it is written.
A stage that fails makes no report of its own.

Owns: levels, the parts that report, records, and the records of each stage and of a whole run.

Does not own: which records are shown, and how.
-/

namespace Reckoner

/-- How important a record is, the most important first. -/
inductive Level where
  | error
  | warning
  | info
  | debug
  | trace
deriving DecidableEq

def Level.name : Level → String
  | .error => "ERROR"
  | .warning => "WARN"
  | .info => "INFO"
  | .debug => "DEBUG"
  | .trace => "TRACE"

def Level.rank : Level → Nat
  | .error => 1
  | .warning => 2
  | .info => 3
  | .debug => 4
  | .trace => 5

inductive Reporter where
  | commandLine
  | scanner
  | reader
  | checker
  | machine
  | listing
deriving DecidableEq

def Reporter.name : Reporter → String
  | .commandLine => "numscript"
  | .scanner => "numscript::pipeline::lexer"
  | .reader => "numscript::pipeline::parser::core"
  | .checker => "numscript::pipeline::semantic"
  | .machine => "numscript::pipeline::codegen::core"
  | .listing => "numscript::pipeline::codegen::emit"

structure Record where
  level : Level
  reporter : Reporter
  text : String
deriving DecidableEq

namespace Journal

def lineCount (source : String) : Nat :=
  source.toList.count '\n' + 1

def ofScan (source : String) : List Record :=
  match Token.scan source with
  | .ok tokens =>
      [⟨.debug, .scanner,
        s!"tokenized {tokens.length} tokens over {lineCount source} line(s)"⟩]
  | .error _ => []

def ofParse (tokens : List PlacedToken) : List Record :=
  match Parse.program tokens with
  | .ok program =>
      [⟨.debug, .reader, s!"parsed {program.length} statement(s)"⟩]
  | .error _ => []

def ofCheck (known : Declarations) (program : Program) : List Record :=
  match known.check program with
  | (.ok (), declared) =>
      [⟨.debug, .checker,
        s!"semantic analysis passed, {declared.size} variable(s) declared"⟩]
  | (.error _, _) => []

def ofLine : Line → Record
  | .threeAddress text => ⟨.trace, .listing, s!"tac: {text}"⟩
  | .assembly text => ⟨.trace, .listing, s!"asm: {text}"⟩

/-- The records of the lines that a machine wrote since an earlier state. -/
def ofLines (earlier later : Machine Listing) : List Record :=
  (later.emitted.since earlier.emitted).map ofLine

/-- The record of a program that was executed and left the given machine. -/
def ofExecuted {σ : Type} (program : Program) (machine : Machine σ) : Record :=
  ⟨.debug, .machine,
    s!"executed {program.length} statement(s), {machine.temporaries} temporaries used"⟩

def ofExecution (machine : Machine Listing) (program : Program) : List Record :=
  match machine.executeAll Listing.emitter program with
  | (.ok _, later) => ofLines machine later ++ [ofExecuted program later]
  | (.error _, later) => ofLines machine later

/-- The records of checking and executing a program from the start. -/
def ofProgram (program : Program) : List Record :=
  ofCheck .empty program ++
    match (Declarations.check .empty program).1 with
    | .ok () => ofExecution .fresh program
    | .error _ => []

def ofReading (source : String) : List Record :=
  ofScan source ++
    match Token.scan source with
    | .ok tokens => ofParse tokens
    | .error _ => []

def ofRun (source : String) : List Record :=
  ofReading source ++
    match Token.scan source with
    | .ok tokens =>
        match Parse.program tokens with
        | .ok program => ofProgram program
        | .error _ => []
    | .error _ => []

end Journal

end Reckoner
