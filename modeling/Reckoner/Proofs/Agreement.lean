import Reckoner.Proofs.OutputText
import Reckoner.Proofs.Sections
import Reckoner.Proofs.Stages

/-!
Contract: the command line agrees with a run.

The command line goes through the stages on its own, in order to show sections between them.  Its
status, and everything that it shows, can be told from a run of the same script and from the flags
that ask for sections.  A failure keeps the sections of the stages that succeeded, and its message
ends the error stream.  Neither the verbosity nor the place of the script makes a difference for the
status and the output.

Owns: the script of a request, the sections in their order, and the answer that a run calls for.

Does not own: the reading of arguments, and the lines of records.
-/

namespace Reckoner.Response

/-- The script that a request is about: the argument itself, or the text in the file it names. -/
def Concerns
    (readFile : String → Option ByteArray)
    (options : Options)
    (contents script : String) : Prop :=
  if options.file then readFile contents = some script.toUTF8 else contents = script

/-! ### Sections -/

/-- The sections that are shown, one after the other. -/
def shown (sections : List (Bool × String)) : String :=
  String.join ((sections.filter Prod.fst).map Prod.snd)

/-- The section of the scanner: a heading, one row for each token, and an empty line. -/
def scannerSections (options : Options) (tokens : List PlacedToken) : List (Bool × String) :=
  [(options.tokens,
    "Tokens:\n" ++ String.join (tokens.map fun placed => placed.row ++ "\n") ++ "\n")]

/-- The sections of the reader: the outline of the program between a heading and an empty line, and
the drawing of its tree. -/
def readerSections (options : Options) (program : Program) : List (Bool × String) :=
  [(options.dump, "AST:\n" ++ "\n".intercalate (Outline.program program) ++ "\n\n"),
    (options.tree, (ParseTree.ofProgram program).dot ++ "\n")]

def listingSections (options : Options) (threeAddress assembly : String) : List (Bool × String) :=
  [(options.code, "\nThree-Address Code:\n" ++ threeAddress ++ "\n"),
    (options.code, "\nAssembly Code:\n" ++ assembly ++ "\n")]

/-- The sections of a successful run.  The output is shown when there is a print statement. -/
def runSections (options : Options) (compilation : Compilation) : List (Bool × String) :=
  scannerSections options compilation.tokens ++ readerSections options compilation.program ++
    (compilation.program.any Statement.isPrint, compilation.output ++ "\n") ::
      listingSections options compilation.threeAddress compilation.assembly

/-- The sections of the stages before the one that failed.  Output is never among them. -/
inductive SectionsBefore (options : Options) (script : String) :
    Failure → List (Bool × String) → Prop where
  | scan {error : ScanError} : SectionsBefore options script (.scan error) []
  | grammar {tokens : List PlacedToken} {error : GrammarError}
      (scanned : Token.scan script = .ok tokens) :
      SectionsBefore options script (.grammar error) (scannerSections options tokens)
  | scope {tokens : List PlacedToken} {program : Program} {error : ScopeError}
      (scanned : Token.scan script = .ok tokens)
      (read : Parse.program tokens = .ok program) :
      SectionsBefore options script (.scope error)
        (scannerSections options tokens ++ readerSections options program)
  | eval {tokens : List PlacedToken} {program : Program} {error : EvalError}
      (scanned : Token.scan script = .ok tokens)
      (read : Parse.program tokens = .ok program) :
      SectionsBefore options script (.eval error)
        (scannerSections options tokens ++ readerSections options program)

private theorem shown_nil : shown [] = "" := rfl

private theorem shown_cons (asked : Bool) (content : String) (rest : List (Bool × String)) :
    shown ((asked, content) :: rest) = shownIf asked content ++ shown rest := by
  cases asked <;> simp [shown, shownIf]

private theorem shown_append (first second : List (Bool × String)) :
    shown (first ++ second) = shown first ++ shown second := by
  induction first with
  | nil => rw [List.nil_append, shown_nil, String.empty_append]
  | cons entry rest inductionHypothesis =>
      obtain ⟨asked, content⟩ := entry
      rw [List.cons_append, shown_cons, shown_cons, inductionHypothesis, String.append_assoc]

private theorem shown_scannerSections (options : Options) (tokens : List PlacedToken) :
    shown (scannerSections options tokens) = shownIf options.tokens (tokenSection tokens) := by
  rw [scannerSections, shown_cons, shown_nil, String.append_empty, tokenSection_eq]

private theorem shown_readerSections
    (options : Options)
    {script : String}
    {tokens : List PlacedToken}
    {program : Program}
    (scanned : Token.scan script = .ok tokens)
    (read : Parse.program tokens = .ok program) :
    shown (readerSections options program) =
      shownIf options.dump (dumpSection program) ++ shownIf options.tree (treeSection program) := by
  rw [readerSections, shown_cons, shown_cons, shown_nil, String.append_empty, treeSection,
    dumpSection_eq scanned read]

private theorem shownIf_append (asked : Bool) (first second : String) :
    shownIf asked (first ++ second) = shownIf asked first ++ shownIf asked second := by
  cases asked with
  | false => exact String.empty_append.symm
  | true => rfl

private theorem codeSection_eq (listing : Listing) :
    codeSection listing =
      ("\nThree-Address Code:\n" ++ Listing.join listing.threeAddress ++ "\n") ++
        ("\nAssembly Code:\n" ++ Listing.join listing.assembly ++ "\n") := by
  unfold codeSection
  generalize "\nThree-Address Code:\n" ++ Listing.join listing.threeAddress ++ "\n" = first
  rw [String.append_assoc, String.append_assoc, String.append_assoc]

private theorem shown_listingSections (options : Options) (listing : Listing) :
    shown (listingSections options (Listing.join listing.threeAddress)
        (Listing.join listing.assembly)) =
      shownIf options.code (codeSection listing) := by
  rw [codeSection_eq, shownIf_append, listingSections, shown_cons, shown_cons, shown_nil,
    String.append_empty]

/-- A failure determines the sections that are shown before it. -/
theorem SectionsBefore.unique
    {options : Options}
    {script : String}
    {failure : Failure}
    {sections others : List (Bool × String)}
    (before : SectionsBefore options script failure sections)
    (beforeToo : SectionsBefore options script failure others) :
    sections = others := by
  cases before with
  | scan =>
      cases beforeToo
      rfl
  | grammar scanned =>
      cases beforeToo with
      | grammar scannedToo =>
          rw [scanned] at scannedToo
          cases scannedToo
          rfl
  | scope scanned read =>
      cases beforeToo with
      | scope scannedToo readToo =>
          rw [scanned] at scannedToo
          cases scannedToo
          rw [read] at readToo
          cases readToo
          rfl
  | eval scanned read =>
      cases beforeToo with
      | eval scannedToo readToo =>
          rw [scanned] at scannedToo
          cases scannedToo
          rw [read] at readToo
          cases readToo
          rfl

/-! ### Answers -/

/-- What the outcome of a run calls for on the command line. -/
def Answers (options : Options) (script : String) (response : Response) :
    Except Failure Compilation → Prop
  | .ok compilation =>
      response.status = 0 ∧ response.output = shown (runSections options compilation)
  | .error failure =>
      response.status = 1 ∧
      (∃ sections, SectionsBefore options script failure sections ∧
        response.output = shown sections) ∧
      ∃ records, response.errors = records ++ failure.message ++ "\n"

private theorem answers_failed
    {options : Options}
    {script : String}
    {failure : Failure}
    {sections : List (Bool × String)}
    (before : SectionsBefore options script failure sections)
    (records : List Record) :
    Answers options script (failed options (shown sections) records failure) (.error failure) :=
  ⟨rfl, ⟨sections, before, rfl⟩, _, rfl⟩

/-- The output and its line break make a section that is shown when the program prints. -/
theorem outputSection_eq
    {program : Program}
    {printed : List Number}
    {machine : Machine Listing}
    (executed : Machine.fresh.executeAll Listing.emitter program = (.ok printed, machine)) :
    outputSection (Machine.outputText printed) =
      shownIf (program.any Statement.isPrint) (Machine.outputText printed ++ "\n") := by
  have empty_iff := Machine.outputText_eq_empty_iff_noPrint executed
  rw [← String.isEmpty_iff] at empty_iff
  unfold outputSection shownIf
  cases prints : program.any Statement.isPrint with
  | false => rw [if_pos (empty_iff.mpr prints), if_neg (by decide)]
  | true =>
      have notEmpty : ¬ (Machine.outputText printed).isEmpty := by
        rw [empty_iff, prints]
        decide
      rw [if_neg notEmpty, if_pos rfl]

/-- Going through the stages one by one, with sections shown between them, answers like a run. -/
theorem ofScript_answers (options : Options) (records : List Record) (script : String) :
    Answers options script (ofScript options records script) (run script) := by
  have ending := run_ending script
  generalize run script = outcome at ending ⊢
  cases ending with
  | scan scanned =>
      simp only [ofScript, scanned]
      exact answers_failed .scan _
  | grammar scanned read =>
      simp only [ofScript, scanned, parsing, read]
      rw [← shown_scannerSections]
      exact answers_failed (.grammar scanned) _
  | scope scanned read checked =>
      simp only [ofScript, scanned, parsing, read, checking, checked]
      rw [String.append_assoc, ← shown_scannerSections,
        ← shown_readerSections options scanned read, ← shown_append]
      exact answers_failed (.scope scanned read) _
  | eval scanned read checked executed =>
      simp only [ofScript, scanned, parsing, read, checking, checked, executing, executed]
      rw [String.append_assoc, ← shown_scannerSections,
        ← shown_readerSections options scanned read, ← shown_append]
      exact answers_failed (.eval scanned read) _
  | success scanned read checked executed =>
      simp only [ofScript, scanned, parsing, read, checking, checked, executing, executed]
      refine ⟨rfl, ?_⟩
      rw [runSections, shown_append, shown_append, shown_scannerSections,
        shown_readerSections options scanned read, shown_cons, shown_listingSections,
        outputSection_eq executed]
      simp only [String.append_assoc]

/-! ### Requests -/

private theorem fromUTF8?_toUTF8 (script : String) :
    String.fromUTF8? script.toUTF8 = some script := by
  have valid : script.toUTF8.IsValidUTF8 := script.isValidUTF8
  rw [String.fromUTF8?, dif_pos valid]
  rfl

/-- Wherever the script of a request stands, the response is one to that script. -/
theorem exists_ofRequest_eq
    {readFile : String → Option ByteArray}
    {options : Options}
    {contents script : String}
    (concerns : Concerns readFile options contents script) :
    ∃ records, ofRequest readFile (.run options contents) = ofScript options records script := by
  unfold Concerns at concerns
  cases inFile : options.file with
  | false =>
      rw [if_neg (by simp [inFile])] at concerns
      refine ⟨[], ?_⟩
      rw [ofRequest, if_neg (by simp [inFile]), concerns]
  | true =>
      rw [if_pos inFile] at concerns
      refine ⟨[ownRecord .info s!"reading script from '{contents}'"], ?_⟩
      rw [ofRequest, if_pos inFile, concerns, ofFile, Option.bind_some, fromUTF8?_toUTF8]

/-- A request is answered like a run of the script that it concerns. -/
theorem answers_ofRequest
    {readFile : String → Option ByteArray}
    {options : Options}
    {contents script : String}
    (concerns : Concerns readFile options contents script) :
    Answers options script (ofRequest readFile (.run options contents)) (run script) := by
  obtain ⟨records, answered⟩ := exists_ofRequest_eq concerns
  rw [answered]
  exact ofScript_answers options records script

private theorem SectionsBefore.of_with
    {options : Options}
    {file : Bool}
    {verbosity : Nat}
    {script : String}
    {failure : Failure}
    {sections : List (Bool × String)}
    (before : SectionsBefore { options with file, verbosity } script failure sections) :
    SectionsBefore options script failure sections := by
  cases before with
  | scan => exact .scan
  | grammar scanned => exact .grammar scanned
  | scope scanned read => exact .scope scanned read
  | eval scanned read => exact .eval scanned read

/-- Answers to one outcome differ in their error streams at most. -/
theorem Answers.unique
    {options : Options}
    {file : Bool}
    {verbosity : Nat}
    {script : String}
    {response other : Response}
    {outcome : Except Failure Compilation}
    (answers : Answers options script response outcome)
    (answersToo : Answers { options with file, verbosity } script other outcome) :
    other.status = response.status ∧ other.output = response.output := by
  cases outcome with
  | ok compilation =>
      obtain ⟨status, output⟩ := answers
      obtain ⟨otherStatus, otherOutput⟩ := answersToo
      exact ⟨otherStatus.trans status.symm, otherOutput.trans output.symm⟩
  | error failure =>
      obtain ⟨status, ⟨sections, before, output⟩, _⟩ := answers
      obtain ⟨otherStatus, ⟨others, beforeToo, otherOutput⟩, _⟩ := answersToo
      have sameSections : others = sections := beforeToo.of_with.unique before
      refine ⟨otherStatus.trans status.symm, ?_⟩
      rw [otherOutput, output, sameSections]

/-- The response to a request that concerns a script agrees with a run of the script, and neither
the verbosity nor the place of the script changes its status or its output. -/
theorem request_agrees_with_run
    {readFile : String → Option ByteArray}
    {options : Options}
    {contents script : String}
    (concerns : Concerns readFile options contents script) :
    let response := ofRequest readFile (.run options contents)
    (response.status = 0 ↔ ∃ compilation, run script = .ok compilation) ∧
    (∀ compilation, run script = .ok compilation →
      response.output = shown (runSections options compilation)) ∧
    (∀ failure, run script = .error failure →
      response.status = 1 ∧
      (∃ sections, SectionsBefore options script failure sections ∧
        response.output = shown sections) ∧
      ∃ records, response.errors = records ++ failure.message ++ "\n") ∧
    ∀ (otherFiles : String → Option ByteArray) (file : Bool) (verbosity : Nat)
      (otherContents : String),
      Concerns otherFiles { options with file, verbosity } otherContents script →
      let other := ofRequest otherFiles (.run { options with file, verbosity } otherContents)
      other.status = response.status ∧ other.output = response.output := by
  intro response
  have answers : Answers options script response (run script) := answers_ofRequest concerns
  refine ⟨?_, ?_, ?_, ?_⟩
  · cases outcome : run script with
    | ok compilation =>
        rw [outcome] at answers
        have succeeded : response.status = 0 := answers.1
        simp [succeeded]
    | error failure =>
        rw [outcome] at answers
        have notSucceeded : response.status = 1 := answers.1
        simp [notSucceeded]
  · intro compilation outcome
    rw [outcome] at answers
    exact answers.2
  · intro failure outcome
    rw [outcome] at answers
    exact answers
  · intro otherFiles file verbosity otherContents concernsToo
    exact answers.unique (answers_ofRequest concernsToo)

/-- A script in a file, of which the second statement fails: the status, the message, and the same
output as for the script on the command line, where the tokens are shown and the first `1` is not. -/
theorem request_agrees_with_run_from_file :
    let script := "PRINT 1\nPRINT LOG 0 10"
    let failure := Failure.eval (.invalidOperand (.function .log) (.notPositive (.integer 0)) 2)
    let files := fun path : String => if path = "log.txt" then some script.toUTF8 else none
    let options : Options := { file := true, tokens := true, verbosity := 2 }
    let response := ofRequest files (.run options "log.txt")
    Concerns files options "log.txt" script ∧ run script = .error failure ∧
    response.status = 1 ∧
    (∃ records, response.errors = records ++ failure.message ++ "\n") ∧
    response.output = (ofRequest (fun _ => none) (.run { tokens := true } script)).output := by
  intro script failure files options response
  have concerns : Concerns files options "log.txt" script := rfl
  have failed : run script = .error failure := by decide +kernel
  obtain ⟨_, _, answered, independent⟩ := request_agrees_with_run concerns
  obtain ⟨status, _, errors⟩ := answered failure failed
  have sameOutput := (independent (fun _ => none) false 0 script rfl).2
  exact ⟨concerns, failed, status, errors, sameOutput.symm⟩

end Reckoner.Response
