import Reckoner.Proofs.DeclaredVariables
import Reckoner.Proofs.Stages
import Reckoner.Proofs.Lockstep
import Reckoner.Proofs.LongestMatch
import Reckoner.Proofs.OutputText

/-!
Contract: the assembly of a script tracks its variables, as long as no temporary takes the name of
one.

Replaying an assembly listing means to go through its text line by line and to put the text of each
`MOV` into the cell that it names.  Variables and temporaries share these cells.  A temporary is
called `T` and its number, which is also a legal name for a variable, and nothing keeps the two
apart: a print statement can move its value into the cell of a variable.

Owns: the replay of a listing, its agreement with the instructions, and the exact condition under
which the cell of a variable holds its value.

Does not own: the value of an `OUT` line, and the names that a script can give to variables.
-/

namespace Reckoner

/-! ### Replaying a listing -/

/-- The cell and the text in a line `MOV cell, text`. -/
def moveOf? : List Char → Option (String × String)
  | 'M' :: 'O' :: 'V' :: ' ' :: operands =>
      match operands.dropWhile (· != ',') with
      | ',' :: ' ' :: text =>
          some (String.ofList (operands.takeWhile (· != ',')), String.ofList text)
      | _ => none
  | _ => none

def replayLine (cells : NameMap String) (line : List Char) : NameMap String :=
  match moveOf? line with
  | some (cell, text) => cells.insert cell text
  | none => cells

def replay (assembly : String) : NameMap String :=
  (assembly.toList.splitOn '\n').foldl replayLine .empty

private theorem replay_join
    {lines : List String}
    (unbroken : ∀ line ∈ lines, '\n' ∉ line.toList) :
    replay (Listing.join lines) = (lines.map String.toList).foldl replayLine .empty := by
  have joined : (Listing.join lines).toList = ['\n'].intercalate (lines.map String.toList) :=
    String.toList_intercalate
  rw [replay, joined]
  by_cases nonempty : lines = []
  · subst nonempty
    rfl
  · rw [List.splitOn_intercalate '\n' (by simpa using unbroken) (by simpa using nonempty)]

/-! ### Characters of a listing -/

/-- Names that neither end a line nor the first operand of an instruction. -/
def IsPlain (name : String) : Prop :=
  ∀ c ∈ name.toList, c ≠ '\n' ∧ c ≠ ','

private theorem toList_temporaryName (temporary : Nat) :
    (temporaryName temporary).toList = 'T' :: Decimal.digits temporary := by
  simp [temporaryName, toString, Decimal.digits]

/-- Temporaries have names of their own. -/
theorem temporaryName_inj {temporary other : Nat} :
    temporaryName temporary = temporaryName other ↔ temporary = other := by
  constructor
  · intro same
    have sameText := congrArg String.toList same
    rw [toList_temporaryName, toList_temporaryName, List.cons.injEq] at sameText
    have sameValue := congrArg Decimal.ofDigits sameText.2
    simpa using sameValue
  · rintro rfl
    rfl

private theorem isPlain_temporaryName (temporary : Nat) : IsPlain (temporaryName temporary) := by
  intro c member
  rw [toList_temporaryName] at member
  rcases List.mem_cons.mp member with rfl | inDigits
  · decide
  · exact ⟨Decimal.ne_of_mem_digits inDigits rfl, Decimal.ne_of_mem_digits inDigits rfl⟩

/-! ### Instructions -/

namespace Instruction

/-- The cell that an instruction moves a value into, and the value. -/
def move? : Instruction → Option (String × Number)
  | .store name value => some (name, value)
  | .print temporary value => some (temporaryName temporary, value)
  | .fold .. | .call .. => none

def replay (cells : NameMap String) (instruction : Instruction) : NameMap String :=
  match instruction.move? with
  | some (cell, value) => cells.insert cell value.text
  | none => cells

end Instruction

private theorem moveOf?_move {cell : String} (plain : IsPlain cell) (text : String) :
    moveOf? s!"MOV {cell}, {text}".toList = some (cell, text) := by
  have notComma : ∀ c ∈ cell.toList, (c != ',') = true := by
    intro c member
    simpa using (plain c member).2
  have split : s!"MOV {cell}, {text}".toList =
      'M' :: 'O' :: 'V' :: ' ' :: (cell.toList ++ ',' :: ' ' :: text.toList) := by
    simp [toString]
  rw [split, moveOf?, List.dropWhile_append_of_pos notComma, List.takeWhile_append_of_pos notComma]
  simp

private theorem replayLine_move
    {cell : String}
    (plain : IsPlain cell)
    (text : String)
    (cells : NameMap String) :
    replayLine cells s!"MOV {cell}, {text}".toList = cells.insert cell text := by
  rw [replayLine, moveOf?_move plain]

private theorem replayLine_of_none
    {line : List Char}
    (noMove : moveOf? line = none)
    (cells : NameMap String) :
    replayLine cells line = cells := by
  rw [replayLine, noMove]

namespace Instruction

def PlainCell (instruction : Instruction) : Prop :=
  ∀ cell value, instruction.move? = some (cell, value) → IsPlain cell

/-- Replaying the assembly of an instruction does what the instruction does to the cells. -/
theorem replay_assembly
    {instruction : Instruction}
    (plain : instruction.PlainCell)
    (cells : NameMap String) :
    (instruction.assembly.map String.toList).foldl replayLine cells = instruction.replay cells := by
  cases instruction with
  | store name value => exact replayLine_move (plain name value rfl) value.text cells
  | fold operator temporary value =>
      apply replayLine_of_none
      cases operator <;> simp [toString, moveOf?, FoldOperator.keyword]
  | call operator temporary value =>
      apply replayLine_of_none
      cases operator <;> simp [toString, moveOf?, FunctionOperator.keyword]
  | print temporary value =>
      have noMove : moveOf? s!"OUT {temporaryName temporary}".toList = none := by
        simp [toString, moveOf?]
      calc
        _ = replayLine cells s!"MOV {temporaryName temporary}, {value.text}".toList :=
          replayLine_of_none noMove _
        _ = _ := replayLine_move (isPlain_temporaryName temporary) value.text cells

private theorem newline_notMem_assembly
    {instruction : Instruction}
    (plain : instruction.PlainCell) :
    ∀ line ∈ instruction.assembly, '\n' ∉ line.toList := by
  have notInName : ∀ {name : String}, IsPlain name → '\n' ∉ name.toList :=
    fun plain member => (plain _ member).1 rfl
  have notInTemporary := fun temporary => notInName (isPlain_temporaryName temporary)
  cases instruction with
  | store name value =>
      simp [assembly, toString, newline_notMem_text, notInName (plain name value rfl)]
  | fold operator temporary value =>
      cases operator <;>
        simp [assembly, toString, newline_notMem_text, notInTemporary, FoldOperator.keyword]
  | call operator temporary value =>
      cases operator <;>
        simp [assembly, toString, newline_notMem_text, notInTemporary, FunctionOperator.keyword]
  | print temporary value =>
      simp [assembly, toString, newline_notMem_text, notInTemporary]

private theorem foldl_replay_assembly
    {instructions : List Instruction}
    (plain : ∀ instruction ∈ instructions, instruction.PlainCell)
    (cells : NameMap String) :
    ((instructions.flatMap assembly).map String.toList).foldl replayLine cells =
      instructions.foldl replay cells := by
  induction instructions generalizing cells with
  | nil => rfl
  | cons instruction rest inductionHypothesis =>
      obtain ⟨plainFirst, plainRest⟩ := List.forall_mem_cons.mp plain
      rw [List.flatMap_cons, List.map_append, List.foldl_append, replay_assembly plainFirst,
        inductionHypothesis plainRest, List.foldl_cons]

/-- Computations move nothing. -/
theorem foldl_replay_filter (instructions : List Instruction) (cells : NameMap String) :
    (instructions.filter (!·.isComputation)).foldl replay cells =
      instructions.foldl replay cells := by
  rw [List.foldl_filter]
  congr 1
  funext cells instruction
  cases instruction <;> rfl

end Instruction

/-- Computations leave every cell as it is, so replaying depends on stores and prints only. -/
theorem replay_join_assembly
    {instructions : List Instruction}
    (plain : ∀ completion ∈ instructions.filter (!·.isComputation), completion.PlainCell) :
    replay (Listing.join (instructions.flatMap Instruction.assembly)) =
      (instructions.filter (!·.isComputation)).foldl Instruction.replay .empty := by
  have allPlain : ∀ instruction ∈ instructions, instruction.PlainCell := by
    intro instruction member
    by_cases computation : instruction.isComputation
    · intro cell value isMove
      cases instruction <;>
        simp [Instruction.move?, Instruction.isComputation] at isMove computation
    · exact plain instruction (List.mem_filter.mpr ⟨member, by simpa using computation⟩)
  have unbroken : ∀ line ∈ instructions.flatMap Instruction.assembly, '\n' ∉ line.toList := by
    intro line member
    obtain ⟨instruction, isInstruction, isLine⟩ := List.mem_flatMap.mp member
    exact Instruction.newline_notMem_assembly (allPlain instruction isInstruction) line isLine
  rw [replay_join unbroken, Instruction.foldl_replay_assembly allPlain,
    Instruction.foldl_replay_filter]

/-! ### Cells and variables -/

/-- A print statement moves a text into the cell of a variable that is not the variable's own, and
no later statement sets the variable. -/
def Overwritten (program : Program) (name : String) : Prop :=
  ∃ before expr line after reached value evaluated,
    program = before ++ .print expr line :: after ∧
    Machine.fresh.Executes Listing.emitter before reached ∧
    reached.evaluate Listing.emitter expr = (.ok value, evaluated) ∧
    temporaryName (evaluated.temporaries + 1) = name ∧
    (reached.valueOf? name).map Number.text ≠ some value.text ∧
    name ∉ targets after

private theorem mem_targets_concat (name : String) (program : Program) (statement : Statement) :
    name ∈ targets (program ++ [statement]) ↔
      name ∈ targets program ∨ statement.target? = some name := by
  simp [targets, List.filterMap_append]

/-- The last statement can set the variable again or overwrite it. -/
theorem overwritten_concat_iff
    {program : Program}
    {statement : Statement}
    {reached evaluated : Machine Listing}
    {value : Number}
    (executes : Machine.fresh.Executes Listing.emitter program reached)
    (evaluates : reached.evaluate Listing.emitter statement.value = (.ok value, evaluated))
    (name : String) :
    Overwritten (program ++ [statement]) name ↔
      (Overwritten program name ∧ statement.target? ≠ some name) ∨
      (statement.target? = none ∧ temporaryName (evaluated.temporaries + 1) = name ∧
        (reached.valueOf? name).map Number.text ≠ some value.text) := by
  constructor
  · rintro ⟨before, expr, line, after, start, printed, last, split, executesBefore, evaluatesPrint,
      sameName, otherText, notSet⟩
    rcases List.eq_nil_or_concat after with rfl | ⟨front, final, rfl⟩
    · obtain ⟨rfl, same⟩ := List.append_inj' split rfl
      obtain rfl := List.singleton_inj.mp same
      obtain rfl := executes.unique executesBefore
      rw [Statement.value, evaluatesPrint] at evaluates
      obtain ⟨⟨⟩, rfl⟩ := Prod.mk.inj evaluates
      exact .inr ⟨rfl, sameName, otherText⟩
    · rw [List.concat_eq_append, ← List.cons_append, ← List.append_assoc] at split
      obtain ⟨rfl, same⟩ := List.append_inj' split rfl
      obtain rfl := List.singleton_inj.mp same
      rw [List.concat_eq_append, mem_targets_concat, not_or] at notSet
      exact .inl ⟨⟨before, expr, line, front, start, printed, last, rfl, executesBefore,
        evaluatesPrint, sameName, otherText, notSet.1⟩, notSet.2⟩
  · rintro (⟨⟨before, expr, line, after, start, printed, last, rfl, executesBefore,
      evaluatesPrint, sameName, otherText, notSet⟩, notTarget⟩ | ⟨isPrint, sameName, otherText⟩)
    · refine ⟨before, expr, line, after ++ [statement], start, printed, last, by simp,
        executesBefore, evaluatesPrint, sameName, otherText, ?_⟩
      rw [mem_targets_concat, not_or]
      exact ⟨notSet, notTarget⟩
    · cases statement with
      | declare target expr line | assign target expr line => cases isPrint
      | print expr line =>
          exact ⟨program, expr, line, [], reached, value, evaluated, rfl, executes, evaluates,
            sameName, otherText, by simp [targets]⟩

/-- The temporary that overwrites a variable was handed out by then. -/
theorem Overwritten.exists_temporary
    {program : Program}
    {name : String}
    {reached : Machine Listing}
    (overwritten : Overwritten program name)
    (executes : Machine.fresh.Executes Listing.emitter program reached) :
    ∃ temporary ≤ reached.temporaries, temporaryName temporary = name := by
  obtain ⟨before, expr, line, after, start, value, evaluated, rfl, executesBefore, evaluates,
    sameName, -, -⟩ := overwritten
  obtain ⟨middle, executesToo, executesRest⟩ :=
    (Machine.executes_append_iff _ _ _ _ _).mp executes
  obtain rfl := executesBefore.unique executesToo
  obtain ⟨printed, last, evaluatesToo, executesAfter⟩ :=
    (Machine.executes_cons_iff _ _ _ _ _).mp executesRest
  rw [Statement.value, evaluates] at evaluatesToo
  obtain ⟨⟨⟩, rfl⟩ := Prod.mk.inj evaluatesToo
  exact ⟨evaluated.temporaries + 1, executesAfter.temporaries_le, sameName⟩

/-- The cell of a variable holds the text of its value, unless the variable was overwritten. -/
def Tracks
    (cells : NameMap String)
    (machine : Machine Listing)
    (program : Program)
    (name : String) : Prop :=
  cells.find? name = (machine.valueOf? name).map Number.text ↔ ¬ Overwritten program name

/-- What the instructions of a program that succeeded leave in the cells. -/
structure Replayed
    (program : Program)
    (later : Machine Listing)
    (completions : List Instruction) : Prop where
  wrote : Wrote Listing.emitter Machine.fresh later completions
  plain : (∀ name ∈ targets program, IsPlain name) →
    ∀ completion ∈ completions, completion.PlainCell
  tracks : ∀ name ∈ targets program,
    Tracks (completions.foldl Instruction.replay .empty) later program name

private theorem Statement.plainCell_completion
    {statement : Statement}
    (plain : ∀ name, statement.target? = some name → IsPlain name)
    (temporary : Nat)
    (value : Number) :
    (statement.completion temporary value).PlainCell := by
  intro cell moved isMove
  cases statement with
  | declare name expr line | assign name expr line =>
      obtain ⟨rfl, -⟩ := Prod.mk.inj (Option.some.inj isMove)
      exact plain name rfl
  | print expr line =>
      obtain ⟨rfl, -⟩ := Prod.mk.inj (Option.some.inj isMove)
      exact isPlain_temporaryName temporary

section Step

variable
  {program : Program}
  {reached evaluated : Machine Listing}
  {value : Number}
  {cells : NameMap String}
  {name : String}

/-- A statement that sets a variable moves the new value into the cell of the variable. -/
theorem tracks_concat_of_target
    {statement : Statement}
    {target : String}
    (isTarget : statement.target? = some target)
    (executes : Machine.fresh.Executes Listing.emitter program reached)
    (evaluates : reached.evaluate Listing.emitter statement.value = (.ok value, evaluated))
    (tracks : name ∈ targets program → Tracks cells reached program name)
    (member : name ∈ targets (program ++ [statement])) :
    Tracks (cells.insert target value.text)
      (evaluated.complete Listing.emitter value statement) (program ++ [statement]) name := by
  obtain ⟨instructions, computed⟩ := Machine.computed_of_evaluate evaluates
  rw [Tracks, overwritten_concat_iff executes evaluates, Machine.valueOf?, Machine.complete_find?,
    NameMap.find?_insert, isTarget]
  by_cases same : target = name
  · simp [same]
  · have earlier : name ∈ targets program := by
      rw [mem_targets_concat, isTarget] at member
      simpa [same] using member
    simpa [Tracks, Machine.valueOf?, same, computed.environment] using tracks earlier

/-- A print statement moves its value into the cell of its temporary, and sets no variable. -/
theorem tracks_concat_of_print
    {expr : Expr}
    {line : Nat}
    (executes : Machine.fresh.Executes Listing.emitter program reached)
    (evaluates : reached.evaluate Listing.emitter (Statement.print expr line).value =
      (.ok value, evaluated))
    (tracks : Tracks cells reached program name) :
    Tracks (cells.insert (temporaryName (evaluated.temporaries + 1)) value.text)
      (evaluated.complete Listing.emitter value (.print expr line))
      (program ++ [.print expr line]) name := by
  obtain ⟨instructions, computed⟩ := Machine.computed_of_evaluate evaluates
  have unchanged : (evaluated.complete Listing.emitter value (.print expr line)).valueOf? name =
      reached.valueOf? name := congrArg (NameMap.find? · name) computed.environment
  rw [Tracks, overwritten_concat_iff executes evaluates, unchanged, NameMap.find?_insert]
  by_cases same : temporaryName (evaluated.temporaries + 1) = name
  · -- The temporary is new, so no earlier one can have overwritten the same variable.
    have notEarlier : ¬ Overwritten program name := by
      intro overwritten
      obtain ⟨temporary, handedOut, sameEarlier⟩ := overwritten.exists_temporary executes
      have sameNumber := temporaryName_inj.mp (sameEarlier.trans same.symm)
      have counted : reached.temporaries ≤ evaluated.temporaries := computed.temporaries
      omega
    simp [same, notEarlier, Statement.target?, eq_comm]
  · simpa [Tracks, same, Statement.target?] using tracks

end Step

theorem Replayed.concat
    {program : Program}
    {reached evaluated : Machine Listing}
    {completions : List Instruction}
    {statement : Statement}
    {value : Number}
    (replayed : Replayed program reached completions)
    (executes : Machine.fresh.Executes Listing.emitter program reached)
    (evaluates : reached.evaluate Listing.emitter statement.value = (.ok value, evaluated)) :
    Replayed (program ++ [statement]) (evaluated.complete Listing.emitter value statement)
      (completions ++ [statement.completion (evaluated.temporaries + 1) value]) := by
  obtain ⟨instructions, computed⟩ := Machine.computed_of_evaluate evaluates
  have completed := Machine.wrote_complete Listing.emitter evaluated value statement
  refine ⟨?_, ?_, ?_⟩
  · simpa using (replayed.wrote.trans computed.wrote).trans completed
  · intro plainTargets completion member
    simp only [mem_targets_concat] at plainTargets
    rcases List.mem_append.mp member with earlier | last
    · exact replayed.plain (fun name isTarget => plainTargets name (.inl isTarget)) _ earlier
    · obtain rfl := List.mem_singleton.mp last
      exact Statement.plainCell_completion (fun name isTarget => plainTargets name (.inr isTarget))
        _ _
  · intro name member
    rw [List.foldl_append, List.foldl_cons, List.foldl_nil]
    cases statement with
    | declare target expr line | assign target expr line =>
        exact tracks_concat_of_target rfl executes evaluates (replayed.tracks name) member
    | print expr line =>
        have earlier : name ∈ targets program := by
          rw [mem_targets_concat] at member
          simpa [Statement.target?] using member
        exact tracks_concat_of_print executes evaluates (replayed.tracks name earlier)

/-- The run lemma of replaying, by induction on the statements executed so far. -/
theorem Machine.Executes.exists_replayed
    {program : Program}
    {later : Machine Listing}
    (executes : Machine.fresh.Executes Listing.emitter program later) :
    ∃ completions, Replayed program later completions := by
  induction program using List.reverseRecOn generalizing later with
  | nil =>
      obtain rfl := (executes_nil_iff _ _ _).mp executes
      exact ⟨[], .refl _ _, by simp, by simp [targets]⟩
  | append_singleton program statement inductionHypothesis =>
      obtain ⟨reached, executesBefore, executesLast⟩ :=
        (executes_append_iff _ _ _ _ _).mp executes
      obtain ⟨value, evaluated, evaluates, nothingLeft⟩ :=
        (executes_cons_iff _ _ _ _ _).mp executesLast
      obtain rfl := (executes_nil_iff _ _ _).mp nothingLeft
      obtain ⟨completions, replayed⟩ := inductionHypothesis executesBefore
      exact ⟨_, replayed.concat executesBefore evaluates⟩

/-! ### Names in a script -/

/-- No identifier of a script holds a line break or a comma. -/
theorem isPlain_of_scan
    {source name : String}
    {tokens : List PlacedToken}
    (scanned : Token.scan source = .ok tokens)
    (member : .identifier name ∈ tokens.map PlacedToken.token) :
    IsPlain name := by
  intro c inName
  have continues := Token.continuesWord_of_scan scanned member c inName
  constructor <;>
    · rintro rfl
      exact absurd continues (by decide)

private theorem Grammar.identifier_mem_of_mem_targets
    {tokens : List PlacedToken}
    {program : Program}
    (read : Parse.program tokens = .ok program)
    {name : String}
    (member : name ∈ targets program) :
    .identifier name ∈ tokens.map PlacedToken.token := by
  obtain ⟨-, written⟩ := (program_eq_ok_iff_written _ _).mp read
  rw [((written_all_iff _ _).mp written).1, programSlots, List.map_flatMap]
  obtain ⟨statement, inProgram, isTarget⟩ := List.mem_filterMap.mp member
  refine List.mem_flatMap.mpr ⟨statement, inProgram, ?_⟩
  cases statement with
  | declare target value line | assign target value line =>
      obtain rfl := Option.some.inj isTarget
      simp [statementSlots]
  | print value line => cases isTarget

/-! ### Whole runs -/

/-- **When the assembly of a script tracks a variable.**  Behind the whole listing the cell of a
declared variable holds the text of its final value, except when a print statement behind the last
one that sets the variable has a temporary of the same name and prints another text. -/
theorem replay_tracks_iff_not_overwritten
    {source : String}
    {compilation : Compilation}
    (succeeds : run source = .ok compilation)
    {name : String}
    (declared : name ∈ declaredNames compilation.program) :
    (replay compilation.assembly).find? name =
      ((Machine.fresh.executeAll Listing.emitter compilation.program).2.valueOf? name).map
        Number.text ↔
      ¬ Overwritten compilation.program name := by
  obtain ⟨scanned, read, checked, printed, machine, executed, -, -, assembled⟩ :=
    (run_eq_ok_iff _ _).mp succeeds
  have executes : Machine.fresh.Executes Listing.emitter compilation.program machine :=
    ⟨printed, executed⟩
  obtain ⟨completions, ⟨instructions, emitted, rfl⟩, plain, tracks⟩ := executes.exists_replayed
  have plainTargets : ∀ target ∈ targets compilation.program, IsPlain target := by
    intro target isTarget
    exact isPlain_of_scan scanned (Grammar.identifier_mem_of_mem_targets read isTarget)
  have listed : machine.emitted.assembly = instructions.flatMap Instruction.assembly := by
    rw [emitted, Listing.assembly_foldl_emit]
    rfl
  rw [assembled, listed, replay_join_assembly (plain plainTargets), executed]
  exact tracks name (mem_targets_of_mem_declaredNames declared)

theorem replay_tracks_iff_not_overwritten_unusedName :
    ∃ compilation, run "VAR T2 = 5\nPRINT 7" = .ok compilation ∧
      "T2" ∈ declaredNames compilation.program ∧
      ((replay compilation.assembly).find? "T2" =
        ((Machine.fresh.executeAll Listing.emitter compilation.program).2.valueOf? "T2").map
          Number.text ↔
        ¬ Overwritten compilation.program "T2") := by
  have succeeds : run "VAR T2 = 5\nPRINT 7" = .ok {
      tokens := [⟨.var, 1⟩, ⟨.identifier "T2", 1⟩, ⟨.assign, 1⟩, ⟨.number (.integer 5), 1⟩,
        ⟨.print, 2⟩, ⟨.number (.integer 7), 2⟩]
      program := [.declare "T2" (.number (.integer 5) 1) 1, .print (.number (.integer 7) 2) 2]
      output := "7"
      threeAddress := "T2 = 5\nT1 = 7"
      assembly := "MOV T2, 5\nMOV T1, 7\nOUT T1" } := by
    decide +kernel
  have declared : "T2" ∈ declaredNames
      [.declare "T2" (.number (.integer 5) 1) 1, .print (.number (.integer 7) 2) 2] := by
    decide
  exact ⟨_, succeeds, declared, replay_tracks_iff_not_overwritten succeeds declared⟩

/-- A temporary is not always fresh: the value that is printed replaces that of the variable. -/
theorem replay_temporary_not_fresh :
    ∃ compilation, run "VAR T1 = 5\nPRINT 7" = .ok compilation ∧
      "T1" ∈ declaredNames compilation.program ∧
      (replay compilation.assembly).find? "T1" = some "7" ∧
      ((Machine.fresh.executeAll Listing.emitter compilation.program).2.valueOf? "T1").map
        Number.text = some "5" := by
  have succeeds : run "VAR T1 = 5\nPRINT 7" = .ok {
      tokens := [⟨.var, 1⟩, ⟨.identifier "T1", 1⟩, ⟨.assign, 1⟩, ⟨.number (.integer 5), 1⟩,
        ⟨.print, 2⟩, ⟨.number (.integer 7), 2⟩]
      program := [.declare "T1" (.number (.integer 5) 1) 1, .print (.number (.integer 7) 2) 2]
      output := "7"
      threeAddress := "T1 = 5\nT1 = 7"
      assembly := "MOV T1, 5\nMOV T1, 7\nOUT T1" } := by
    decide +kernel
  refine ⟨_, succeeds, ?_, ?_, ?_⟩
  · decide
  · decide +kernel
  · decide +kernel

end Reckoner
