import Reckoner.Proofs.Effects

/-!
Contract: the two listings of a session are two renderings of one sequence of instructions.

A session is a sequence of calls on one machine.  A call may fail, at any depth of an expression,
and the session then goes on with the machine that it left.  Whatever the calls are, the lines that
they add to three-address code and to assembly come from the same instructions in the same order,
and the values that these instructions print are those of the print statements that succeeded.

Owns: how an instruction is written in each listing, sessions, the values that a session prints, and
the lines that a listing takes.

Does not own: the text of numbers.
-/

namespace Reckoner

/-! ### Written instructions -/

/-- The folding operators, each with its symbol and its mnemonic. -/
def foldWords : List (FoldOperator × String × String) :=
  [(.add, "+", "ADD"), (.sub, "-", "SUB"), (.mul, "*", "MUL"), (.div, "/", "DIV"),
    (.mod, "%", "MOD"), (.pow, "^", "POW")]

def functionWords : List (FunctionOperator × String) :=
  [(.log, "LOG"), (.sin, "SIN"), (.cos, "COS"), (.tan, "TAN")]

/-- The line of three-address code and the lines of assembly that an instruction is written as.  A
temporary is written as a `T` and its number. -/
inductive WrittenAs : Instruction → String → List String → Prop where
  | store (name : String) (value : Number) :
      WrittenAs (.store name value)
        (name ++ " = " ++ value.text)
        ["MOV " ++ name ++ ", " ++ value.text]
  | fold
      {operator : FoldOperator}
      {symbol mnemonic cell : String}
      {temporary : Nat}
      (words : (operator, symbol, mnemonic) ∈ foldWords)
      (isCell : cell = "T" ++ toString temporary)
      (value : Number) :
      WrittenAs (.fold operator temporary value)
        (cell ++ " = " ++ cell ++ " " ++ symbol ++ " " ++ value.text)
        [mnemonic ++ " " ++ cell ++ ", " ++ cell ++ ", " ++ value.text]
  | call
      {operator : FunctionOperator}
      {mnemonic cell : String}
      {temporary : Nat}
      (words : (operator, mnemonic) ∈ functionWords)
      (isCell : cell = "T" ++ toString temporary)
      (value : Number) :
      WrittenAs (.call operator temporary value)
        (cell ++ " = " ++ mnemonic ++ "(" ++ value.text ++ ")")
        [mnemonic ++ " " ++ cell ++ ", " ++ value.text]
  | print
      {cell : String}
      {temporary : Nat}
      (isCell : cell = "T" ++ toString temporary)
      (value : Number) :
      WrittenAs (.print temporary value)
        (cell ++ " = " ++ value.text)
        ["MOV " ++ cell ++ ", " ++ value.text, "OUT " ++ cell]

/-- The lines of three-address code and of assembly that instructions are written as, in order. -/
inductive AllWrittenAs : List Instruction → List String → List String → Prop where
  | nil : AllWrittenAs [] [] []
  | cons
      {instruction : Instruction}
      {rest : List Instruction}
      {line : String}
      {assembly lines furtherAssembly : List String}
      (first : WrittenAs instruction line assembly)
      (others : AllWrittenAs rest lines furtherAssembly) :
      AllWrittenAs (instruction :: rest) (line :: lines) (assembly ++ furtherAssembly)

namespace Instruction

/-- Instructions are written in the stated forms. -/
theorem writtenAs (instruction : Instruction) :
    WrittenAs instruction instruction.threeAddress instruction.assembly := by
  have cell (temporary : Nat) : temporaryName temporary = "T" ++ toString temporary := rfl
  cases instruction with
  | store name value => exact .store name value
  | fold operator temporary value =>
      have words : (operator, operator.symbol, operator.keyword) ∈ foldWords := by
        cases operator <;> decide
      exact .fold words (cell temporary) value
  | call operator temporary value =>
      have words : (operator, operator.keyword) ∈ functionWords := by
        cases operator <;> decide
      exact .call words (cell temporary) value
  | print temporary value => exact .print (cell temporary) value

theorem allWrittenAs (instructions : List Instruction) :
    AllWrittenAs instructions (instructions.map threeAddress) (instructions.flatMap assembly) := by
  induction instructions with
  | nil => exact .nil
  | cons instruction rest inductionHypothesis =>
      exact .cons instruction.writtenAs inductionHypothesis

end Instruction

/-! ### Lines of a listing -/

namespace Listing

theorem toList_foldl_take (listing : Listing) (lines : List Line) :
    (lines.foldl emitter.take listing).lines.toList = listing.lines.toList ++ lines := by
  induction lines generalizing listing with
  | nil => simp
  | cons line rest inductionHypothesis =>
      have taken : (emitter.take listing line).lines = listing.lines.push line := by
        cases line <;> rfl
      rw [List.foldl_cons, inductionHypothesis, taken]
      simp

private theorem toList_foldl_emit (listing : Listing) (instructions : List Instruction) :
    (instructions.foldl emitter.emit listing).lines.toList =
      listing.lines.toList ++ instructions.flatMap Instruction.lines := by
  induction instructions generalizing listing with
  | nil => simp
  | cons instruction rest inductionHypothesis =>
      have emitted : (emitter.emit listing instruction).lines.toList =
          listing.lines.toList ++ instruction.lines := toList_foldl_take listing _
      rw [List.foldl_cons, inductionHypothesis, emitted, List.flatMap_cons, List.append_assoc]

/-- Every instruction adds one line of three-address code. -/
theorem threeAddress_foldl_emit (listing : Listing) (instructions : List Instruction) :
    (instructions.foldl emitter.emit listing).threeAddress =
      listing.threeAddress ++ instructions.map Instruction.threeAddress := by
  rw [threeAddress, toList_foldl_emit, List.filterMap_append, List.filterMap_flatMap,
    List.map_eq_flatMap]
  refine congrArg (listing.threeAddress ++ ·) ?_
  congr 1
  funext instruction
  cases instruction <;> rfl

/-- The assembly of the instructions is added in their order. -/
theorem assembly_foldl_emit (listing : Listing) (instructions : List Instruction) :
    (instructions.foldl emitter.emit listing).assembly =
      listing.assembly ++ instructions.flatMap Instruction.assembly := by
  rw [assembly, toList_foldl_emit, List.filterMap_append, List.filterMap_flatMap]
  refine congrArg (listing.assembly ++ ·) ?_
  congr 1
  funext instruction
  cases instruction <;> rfl

end Listing

/-! ### Sessions -/

inductive Call where
  | evaluate (expr : Expr)
  | execute (statement : Statement)
  | executeAll (program : Program)

namespace Instruction

def printed? : Instruction → Option Number
  | .print _ value => some value
  | .store .. | .fold .. | .call .. => none

/-- Computations print nothing. -/
theorem filterMap_printed?_filter (instructions : List Instruction) :
    (instructions.filter (!·.isComputation)).filterMap printed? =
      instructions.filterMap printed? := by
  rw [List.filterMap_filter]
  congr 1
  funext instruction
  cases instruction <;> rfl

end Instruction

namespace Machine

variable {σ : Type} (emitter : Emitter σ)

/-- The machine that a call leaves, whether it succeeds or fails. -/
def afterCall (machine : Machine σ) : Call → Machine σ
  | .evaluate expr => (machine.evaluate emitter expr).2
  | .execute statement => (machine.execute emitter statement).2
  | .executeAll program => (machine.executeAll emitter program).2

def afterCalls (machine : Machine σ) (calls : List Call) : Machine σ :=
  calls.foldl (afterCall emitter) machine

def printedValue? (machine : Machine σ) : Statement → Option Number
  | .print expr _ => (machine.evaluate emitter expr).1.toOption
  | .declare .. | .assign .. => none

/-- The values of the print statements that succeed.  Statements are executed in order, and none
behind the first that fails. -/
def printedBy (machine : Machine σ) : Program → List Number
  | [] => []
  | statement :: rest =>
      (machine.printedValue? emitter statement).toList ++
        match machine.execute emitter statement with
        | (.error _, _) => []
        | (.ok _, later) => later.printedBy rest

def printedDuring (machine : Machine σ) : Call → List Number
  | .evaluate _ => []
  | .execute statement => machine.printedBy emitter [statement]
  | .executeAll program => machine.printedBy emitter program

def printedInSession (machine : Machine σ) : List Call → List Number
  | [] => []
  | call :: rest =>
      machine.printedDuring emitter call ++ (machine.afterCall emitter call).printedInSession rest

private theorem printedValue?_eq (machine : Machine σ) (statement : Statement) :
    machine.printedValue? emitter statement =
      (machine.evaluate emitter statement.value).1.toOption.bind (statement.printed? ·) := by
  cases statement <;> simp [printedValue?, Statement.printed?, Statement.value]

/-- The step of a session: whatever becomes of a program, its instructions print the values of the
print statements that succeeded. -/
theorem executeAll_wrote (machine : Machine σ) (program : Program) :
    ∃ completions,
      Wrote emitter machine (machine.executeAll emitter program).2 completions ∧
      completions.filterMap Instruction.printed? = machine.printedBy emitter program := by
  induction program generalizing machine with
  | nil => exact ⟨[], .refl emitter machine, rfl⟩
  | cons statement rest inductionHypothesis =>
      rw [executeAll_cons, printedBy, printedValue?_eq, execute_eq]
      cases outcome : machine.evaluate emitter statement.value with
      | mk result evaluated =>
          obtain ⟨instructions, computed⟩ := computed_of_evaluate outcome
          cases result with
          | error error => exact ⟨[], computed.wrote, rfl⟩
          | ok value =>
              have completed := wrote_complete emitter evaluated value statement
              obtain ⟨behind, wroteBehind, printedBehind⟩ :=
                inductionHypothesis (evaluated.complete emitter value statement)
              refine ⟨_, (computed.wrote.trans completed).trans wroteBehind, ?_⟩
              rw [List.filterMap_append, printedBehind]
              cases statement <;> rfl

theorem afterCall_wrote (machine : Machine σ) (call : Call) :
    ∃ completions,
      Wrote emitter machine (machine.afterCall emitter call) completions ∧
      completions.filterMap Instruction.printed? = machine.printedDuring emitter call := by
  cases call with
  | evaluate expr =>
      obtain ⟨instructions, computed⟩ : ∃ instructions, Computed emitter machine _ instructions :=
        computed_of_evaluate rfl
      exact ⟨[], computed.wrote, rfl⟩
  | execute statement =>
      rw [afterCall, ← executeAll_single]
      exact executeAll_wrote emitter machine [statement]
  | executeAll program => exact executeAll_wrote emitter machine program

/-- The run lemma of sessions, by induction on the calls. -/
theorem afterCalls_wrote (machine : Machine σ) (calls : List Call) :
    ∃ completions,
      Wrote emitter machine (machine.afterCalls emitter calls) completions ∧
      completions.filterMap Instruction.printed? = machine.printedInSession emitter calls := by
  induction calls generalizing machine with
  | nil => exact ⟨[], .refl emitter machine, rfl⟩
  | cons call rest inductionHypothesis =>
      obtain ⟨first, wroteFirst, printedFirst⟩ := afterCall_wrote emitter machine call
      obtain ⟨behind, wroteBehind, printedBehind⟩ :=
        inductionHypothesis (machine.afterCall emitter call)
      refine ⟨first ++ behind, wroteFirst.trans wroteBehind, ?_⟩
      rw [List.filterMap_append, printedFirst, printedBehind, printedInSession]

/-- **The listings of a session stay in lockstep.**  What the session adds to the three-address code
and what it adds to the assembly is one sequence of instructions, written in two ways, and this
sequence prints exactly the values of the print statements that succeeded.  On a new machine both
listings start empty. -/
theorem session_in_lockstep (machine : Machine Listing) (calls : List Call) :
    ∃ (instructions : List Instruction) (threeAddress assembly : List String),
      AllWrittenAs instructions threeAddress assembly ∧
      (machine.afterCalls Listing.emitter calls).emitted.threeAddress =
        machine.emitted.threeAddress ++ threeAddress ∧
      (machine.afterCalls Listing.emitter calls).emitted.assembly =
        machine.emitted.assembly ++ assembly ∧
      instructions.filterMap Instruction.printed? =
        machine.printedInSession Listing.emitter calls := by
  obtain ⟨completions, ⟨instructions, emitted, completing⟩, printed⟩ :=
    afterCalls_wrote Listing.emitter machine calls
  refine ⟨instructions, _, _, Instruction.allWrittenAs instructions, ?_, ?_, ?_⟩
  · rw [emitted, Listing.threeAddress_foldl_emit]
  · rw [emitted, Listing.assembly_foldl_emit]
  · rw [← printed, ← completing, Instruction.filterMap_printed?_filter]

end Machine

end Reckoner
