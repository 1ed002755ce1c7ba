import Reckoner.CommandLine.Request
import Reckoner.Compilation
import Reckoner.Dump.Failure
import Reckoner.Journal
import Reckoner.Text.ControlSequence
import Reckoner.Tree.Dot

/-!
Contract: what the command line answers.

A run shows the sections that were asked for, stage by stage, so that what was shown before a
failure stays.  Records and the message of a failure go to the error stream.

Owns: the sections, the lines of records, the status, and the answer to every request.

Does not own: the reading of files and the writing of streams.
-/

namespace Reckoner

structure Response where
  status : Nat
  output : String
  errors : String
deriving DecidableEq

namespace Response

/-- The tokens, one a line after its line number, and an empty line. -/
def tokenSection (tokens : List PlacedToken) : String :=
  let row := fun (placed : PlacedToken) =>
    let line := toString placed.line
    String.ofList (List.replicate (4 - line.length) ' ') ++ line ++ "  " ++ placed.token.text ++
      "\n"
  "Tokens:\n" ++ String.join (tokens.map row) ++ "\n"

def dumpSection (program : Program) : String :=
  "AST:\n" ++ (Program.dump program).indented 0 ++ "\n\n"

def treeSection (program : Program) : String :=
  (ParseTree.ofProgram program).dot ++ "\n"

def codeSection (listing : Listing) : String :=
  "\nThree-Address Code:\n" ++ Listing.join listing.threeAddress ++ "\n" ++
    "\nAssembly Code:\n" ++ Listing.join listing.assembly ++ "\n"

def outputSection (output : String) : String :=
  if output.isEmpty then "" else output ++ "\n"

def shownIf (asked : Bool) (content : String) : String :=
  if asked then content else ""

def ownRecord (level : Level) (text : String) : Record :=
  ⟨level, .commandLine, text⟩

/-- The line of a record.  The name of the level fills five places, a record that runs over several
lines goes on after four blanks, and nothing in it steers a terminal. -/
def recordLine (record : Record) : String :=
  let level := record.level.name
  let fill := String.ofList (List.replicate (5 - level.length) ' ')
  let continued := fun c => if c = '\n' then ['\n', ' ', ' ', ' ', ' '] else [c]
  ControlSequence.strip
    (s!"[{level}{fill} {record.reporter.name}] " ++
      String.ofList (record.text.toList.flatMap continued) ++ "\n")

/-- The lines of the records that a verbosity shows: errors and warnings, and with each step one
level more. -/
def recordLines (verbosity : Nat) (records : List Record) : String :=
  String.join ((records.filter fun record => record.level.rank ≤ 2 + verbosity).map recordLine)

def failed (options : Options) (output : String) (records : List Record) (failure : Failure) :
    Response where
  status := 1
  output := output
  errors :=
    recordLines options.verbosity
      (records ++ [ownRecord .error ("run failed: " ++ failure.dump.oneLine)]) ++
      failure.message ++ "\n"

/-- Executes a program whose declarations are legal; `shown` and `records` come from the stages
before. -/
def executing (options : Options) (shown : String) (records : List Record) (program : Program) :
    Response :=
  let records := records ++ Journal.ofExecution .fresh program
  match Machine.fresh.executeAll Listing.emitter program with
  | (.error error, _) => failed options shown records (.eval error)
  | (.ok printed, machine) =>
      { status := 0
        output := shown ++ outputSection (Machine.outputText printed) ++
          shownIf options.code (codeSection machine.emitted)
        errors := recordLines options.verbosity records }

def checking (options : Options) (shown : String) (records : List Record) (program : Program) :
    Response :=
  let records := records ++ Journal.ofCheck .empty program
  match (Declarations.check .empty program).1 with
  | .error error => failed options shown records (.scope error)
  | .ok () =>
      executing options shown (records ++ [ownRecord .info "semantic analysis passed"]) program

def parsing (options : Options) (shown : String) (records : List Record)
    (tokens : List PlacedToken) : Response :=
  let records := records ++ Journal.ofParse tokens
  match Parse.program tokens with
  | .error error => failed options shown records (.grammar error)
  | .ok program =>
      checking options
        (shown ++ shownIf options.dump (dumpSection program) ++
          shownIf options.tree (treeSection program))
        records program

def ofScript (options : Options) (records : List Record) (script : String) : Response :=
  let records := records ++ Journal.ofScan script
  match Token.scan script with
  | .error error => failed options "" records (.scan error)
  | .ok tokens =>
      parsing options (shownIf options.tokens (tokenSection tokens)) records tokens

/-- The response to a script in a file, of which `bytes` is the content, if it can be read.  A
content that is no UTF-8 text counts as unreadable. -/
def ofFile (options : Options) (path : String) (bytes : Option ByteArray) : Response :=
  let records := [ownRecord .info s!"reading script from '{path}'"]
  match bytes.bind String.fromUTF8? with
  | some script => ofScript options records script
  | none =>
      { status := 1
        output := ""
        errors := recordLines options.verbosity records ++
          s!"Failed to read the input file '{path}'. Perhaps this file does not exist?\n" }

def usage : String :=
  "Usage: numscript [OPTIONS] <CONTENTS>\n\n" ++
    "Arguments:\n  <CONTENTS>  the script, or with --file the path of its file\n\n" ++
    "Options:\n" ++
    "  -f, --file     read the script from a file\n" ++
    "  -t, --tokens   print the tokens\n" ++
    "  -a, --ast      print the program\n" ++
    "      --tree     print the parse tree as DOT text\n" ++
    "  -c, --code     print the listings\n" ++
    "  -v, --verbose  show more records; may be repeated\n" ++
    "  -h, --help     print this text\n" ++
    "  -V, --version  print the version\n"

def refusalText : Refusal → String
  | .unexpectedArgument argument => s!"error: unexpected argument '{argument}'\n\n"
  | .repeatedFlag argument => s!"error: a flag of '{argument}' was given twice\n\n"
  | .missingScript => "error: no script was given\n\n"

/-- The response to a request; `readFile` yields the content of a file that can be read. -/
def ofRequest (readFile : String → Option ByteArray) : Request → Response
  | .version => ⟨0, "numscript 0.1.0\n", ""⟩
  | .help => ⟨0, usage, ""⟩
  | .refused refusal => ⟨2, "", refusalText refusal ++ usage⟩
  | .run options contents =>
      if options.file then ofFile options contents (readFile contents)
      else ofScript options [] contents

end Response

def respond (readFile : String → Option ByteArray) (arguments : List String) : Response :=
  Response.ofRequest readFile (Request.ofArguments arguments)

end Reckoner
