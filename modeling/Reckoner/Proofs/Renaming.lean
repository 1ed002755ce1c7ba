import Reckoner.Proofs.Correspondence
import Reckoner.Proofs.Lockstep
import Reckoner.Scope

/-!
Contract: the names of variables carry no meaning.

The check of declarations and the run compare names with each other and with nothing else.  So under
new names that stay apart, each of them does what it did before: the check finds the same clash, and
the run prints the same values, hands out the same temporaries and writes as many lines.  Only the
names in errors, in the variables and in the lines that store are new.

Owns: maps and machines that agree up to names, that both the check and the run keep them in
agreement, and the behaviour of renamed programs.

Does not own: names that fall together.
-/

namespace Reckoner

/-! ### Maps under new names -/

/-- The second map holds at a new name what the first one holds at the old name. -/
def NameMap.Renames {α : Type} (rename : String → String) (map other : NameMap α) : Prop :=
  ∀ name, other.find? (rename name) = map.find? name

namespace NameMap.Renames

variable {α : Type} {rename : String → String} {map other : NameMap α}

theorem empty : Renames rename (NameMap.empty : NameMap α) .empty := by
  intro name
  rw [find?_empty, find?_empty]

theorem contains (renames : map.Renames rename other) (name : String) :
    other.contains (rename name) = map.contains name := by
  unfold NameMap.contains
  rw [renames name]

/-- Here the new names have to stay apart: an insertion at one of them must not be found at
another. -/
theorem insert
    (injective : Function.Injective rename)
    (renames : map.Renames rename other)
    (inserted : String)
    (value : α) :
    (map.insert inserted value).Renames rename (other.insert (rename inserted) value) := by
  intro name
  rw [find?_insert, find?_insert, renames name]
  by_cases same : inserted = name
  · rw [if_pos same, if_pos (congrArg rename same)]
  · have different : rename inserted ≠ rename name := fun equal => same (injective equal)
    rw [if_neg same, if_neg different]

end NameMap.Renames

/-! ### The check of declarations -/

def ScopeError.renamed (rename : String → String) : ScopeError → ScopeError
  | .alreadyDeclared name line firstLine => .alreadyDeclared (rename name) line firstLine
  | .notDeclared name line => .notDeclared (rename name) line

namespace Declarations

variable {rename : String → String} {known other : Declarations}

/-- A renamed statement is illegal in the same way, or it is legal too and the declared names still
agree. -/
theorem checkStatement_renamed
    (injective : Function.Injective rename)
    (renames : known.Renames rename other)
    (statement : Statement) :
    (∃ error, known.checkStatement statement = .error error ∧
      other.checkStatement (statement.renamed rename) = .error (error.renamed rename)) ∨
    (∃ extended otherExtended : Declarations,
      known.checkStatement statement = .ok extended ∧
      other.checkStatement (statement.renamed rename) = .ok otherExtended ∧
      extended.Renames rename otherExtended) := by
  cases statement with
  | declare name value line =>
      have sameEntry := renames name
      cases found : known.find? name with
      | some firstLine =>
          rw [found] at sameEntry
          refine .inl ⟨.alreadyDeclared name line firstLine, ?_, ?_⟩
          · simp only [checkStatement, found]
          · simp only [Statement.renamed, checkStatement, sameEntry, ScopeError.renamed]
      | none =>
          rw [found] at sameEntry
          refine .inr ⟨_, _, ?_, ?_, renames.insert injective name line⟩
          · simp only [checkStatement, found]
          · simp only [Statement.renamed, checkStatement, sameEntry]
  | assign name value line =>
      have sameName := renames.contains name
      by_cases declared : known.contains name
      · rw [declared] at sameName
        refine .inr ⟨known, other, if_pos declared, if_pos sameName, renames⟩
      · have undeclared : ¬ other.contains (rename name) := by rwa [sameName]
        exact .inl ⟨.notDeclared name line, if_neg declared, if_neg undeclared⟩
  | print value line => exact .inr ⟨_, _, rfl, rfl, renames⟩

/-- The check of a renamed program finds what the check of the program does, under the new name. -/
theorem check_renamed
    (injective : Function.Injective rename)
    (renames : known.Renames rename other)
    (program : Program) :
    (other.check (program.map (Statement.renamed rename))).1 =
      (known.check program).1.mapError (ScopeError.renamed rename) := by
  induction program generalizing known other with
  | nil => rfl
  | cons statement rest inductionHypothesis =>
      rw [List.map_cons, check, check]
      rcases checkStatement_renamed injective renames statement with
        ⟨error, illegal, illegalRenamed⟩ | ⟨extended, otherExtended, legal, legalRenamed, agree⟩
      · rw [illegal, illegalRenamed]
        rfl
      · rw [legal, legalRenamed]
        exact inductionHypothesis agree

end Declarations

/-! ### Machines under new names -/

/-- The second machine has the variables of the first under new names, it has handed out as many
temporaries, and it has emitted the same instructions under new names. -/
structure Machine.Renames
    {σ : Type}
    (rename : String → String)
    (emitter : Emitter σ)
    (start : σ)
    (machine other : Machine σ) : Prop where
  environment : machine.environment.Renames rename other.environment
  temporaries : other.temporaries = machine.temporaries
  emitted : ∃ instructions : List Instruction,
    machine.emitted = instructions.foldl emitter.emit start ∧
    other.emitted = (instructions.map (.relabelled rename id)).foldl emitter.emit start

namespace Correspondence

section

variable {σ : Type} (rename : String → String) (emitter : Emitter σ) (start : σ)

/-- The run of a renamed program beside the run of the program itself. -/
def underNewNames : Correspondence σ σ where
  machines := Machine.Renames rename emitter start
  rename := rename
  renumber := id

private theorem underNewNames_freshTemporary :
    (underNewNames rename emitter start).Relates id Run.freshTemporary Run.freshTemporary := by
  intro machine other renames
  have sameNumber := renames.temporaries
  rw [Machine.perform_freshTemporary, Machine.perform_freshTemporary, sameNumber]
  exact ⟨rfl, renames.environment, rfl, renames.emitted⟩

private theorem underNewNames_emit (instruction : Instruction) :
    (underNewNames rename emitter start).Relates id (Run.emit emitter instruction)
      (Run.emit emitter (instruction.relabelled rename id)) := by
  intro machine other renames
  obtain ⟨instructions, emitted, emittedOther⟩ := renames.emitted
  rw [Machine.perform_emit, Machine.perform_emit, emitted, emittedOther]
  refine ⟨rfl, renames.environment, renames.temporaries, instructions ++ [instruction], ?_, ?_⟩
  · rw [List.foldl_append]
    rfl
  · rw [List.map_append, List.foldl_append]
    rfl

private theorem underNewNames_lookUp (name : String) (line : Nat) :
    (underNewNames rename emitter start).KeptByLookUp name line := by
  intro machine other renames
  have sameVariable : other.environment.find? (rename name) = machine.environment.find? name :=
    renames.environment name
  have lookedUp := other.perform_variableValue (rename name) line
  rw [sameVariable] at lookedUp
  unfold underNewNames
  rw [lookedUp, Machine.perform_variableValue]
  refine ⟨?_, renames⟩
  cases machine.environment.find? name <;> rfl

variable {rename} in
private theorem underNewNames_setVariable
    (injective : Function.Injective rename)
    (name : String)
    (value : Number) :
    (underNewNames rename emitter start).Relates id (Run.setVariable name value)
      (Run.setVariable (rename name) value) := by
  intro machine other renames
  exact ⟨rfl, renames.environment.insert injective name value, renames.temporaries, renames.emitted⟩

variable {rename} in
private theorem underNewNames_kept (injective : Function.Injective rename) :
    (underNewNames rename emitter start).Kept emitter emitter where
  freshTemporary := underNewNames_freshTemporary rename emitter start
  emit := underNewNames_emit rename emitter start
  lookUp := underNewNames_lookUp rename emitter start
  setVariable := underNewNames_setVariable emitter start injective

end

end Correspondence

/-! ### Renamed programs -/

section

variable {σ : Type} {rename : String → String}

/-- The run of a renamed program keeps pace with the run of the program. -/
theorem Machine.executeAll_renamed
    (injective : Function.Injective rename)
    (emitter : Emitter σ)
    (emitted : σ)
    (program : Program) :
    ((unused emitted).executeAll emitter (program.map (Statement.renamed rename))).1 =
      ((unused emitted).executeAll emitter program).1.mapError (EvalError.renamed rename) ∧
    Machine.Renames rename emitter emitted
      ((unused emitted).executeAll emitter program).2
      ((unused emitted).executeAll emitter (program.map (Statement.renamed rename))).2 := by
  have kept := Correspondence.underNewNames_kept emitter emitted injective
  have unusedRenames : Machine.Renames rename emitter emitted (unused emitted) (unused emitted) :=
    ⟨NameMap.Renames.empty, rfl, [], rfl, rfl⟩
  -- A new machine has no variables, so under new names it belongs to itself.
  obtain ⟨sameResult, renames⟩ :=
    Correspondence.relates_executeAll kept program (unused emitted) (unused emitted) unusedRenames
  refine ⟨?_, renames⟩
  rw [executeAll, executeAll]
  rw [congrFun Except.map_id] at sameResult
  exact sameResult

private theorem Instruction.length_assembly_relabelled
    (rename : String → String)
    (renumber : Nat → Nat)
    (instruction : Instruction) :
    (instruction.relabelled rename renumber).assembly.length = instruction.assembly.length := by
  cases instruction <;> rfl

/-- A listing under new names has as many lines of each kind. -/
theorem Machine.Renames.length_listings
    {machine other : Machine Listing}
    (renames : Machine.Renames rename Listing.emitter {} machine other) :
    other.emitted.threeAddress.length = machine.emitted.threeAddress.length ∧
    other.emitted.assembly.length = machine.emitted.assembly.length := by
  obtain ⟨instructions, emitted, emittedOther⟩ := renames.emitted
  rw [emitted, emittedOther]
  refine ⟨?_, ?_⟩
  · rw [Listing.threeAddress_foldl_emit, Listing.threeAddress_foldl_emit]
    simp only [List.length_append, List.length_map]
  · rw [Listing.assembly_foldl_emit, Listing.assembly_foldl_emit]
    simp only [List.length_append, List.length_flatMap, List.map_map]
    congr 2
    refine List.map_congr_left ?_
    intro instruction _
    exact instruction.length_assembly_relabelled rename id

end

/-- **Renaming variables does not change behaviour.**  Under new names that stay apart, the check
accepts a program as before or reports the same clash, and a new machine yields the same output or
the same error, up to the names.  It hands out as many temporaries, each variable has its value
under its new name, and both listings have as many lines. -/
theorem renaming_keeps_behaviour
    {rename : String → String}
    (injective : Function.Injective rename)
    (program : Program) :
    (Declarations.check .empty (program.map (Statement.renamed rename))).1 =
      (Declarations.check .empty program).1.mapError (ScopeError.renamed rename) ∧
    (∀ (σ : Type) (emitter : Emitter σ) (emitted : σ),
      let original := (Machine.unused emitted).executeAll emitter program
      let renamed := (Machine.unused emitted).executeAll emitter
        (program.map (Statement.renamed rename))
      renamed.1.map Machine.outputText =
        (original.1.map Machine.outputText).mapError (EvalError.renamed rename) ∧
      renamed.2.temporaries = original.2.temporaries ∧
      ∀ name, renamed.2.valueOf? (rename name) = original.2.valueOf? name) ∧
    (let original := (Machine.fresh.executeAll Listing.emitter program).2.emitted
      let renamed := (Machine.fresh.executeAll Listing.emitter
        (program.map (Statement.renamed rename))).2.emitted
      renamed.threeAddress.length = original.threeAddress.length ∧
      renamed.assembly.length = original.assembly.length) := by
  refine ⟨?_, ?_, ?_⟩
  · exact Declarations.check_renamed injective .empty program
  · intro σ emitter emitted original renamed
    have executed := Machine.executeAll_renamed injective emitter emitted program
    refine ⟨?_, executed.2.temporaries, executed.2.environment⟩
    have sameResult : renamed.1 = original.1.mapError (EvalError.renamed rename) := executed.1
    rw [sameResult]
    cases original.1 <;> rfl
  · have executed := Machine.executeAll_renamed injective Listing.emitter {} program
    exact executed.2.length_listings

theorem renaming_keeps_behaviour_undefined :
    let rename := fun name : String => "T" ++ name
    let program : Program :=
      [.declare "1" (.number (.integer 5) 1) 1, .print (.identifier "1" 2) 2,
        .print (.identifier "y" 3) 3]
    Function.Injective rename ∧
    (Machine.fresh.executeAll Listing.emitter program).1 = .error (.undefinedVariable "y" 3) ∧
    (Machine.fresh.executeAll Listing.emitter
      (program.map (Statement.renamed rename))).1.map Machine.outputText =
        .error (.undefinedVariable "Ty" 3) ∧
    (Machine.fresh.executeAll Listing.emitter
      (program.map (Statement.renamed rename))).2.valueOf? "T1" = some (.integer 5) := by
  intro rename program
  have injective : Function.Injective rename := by
    intro name other same
    exact (String.append_right_inj "T").mp same
  have failed : (Machine.fresh.executeAll Listing.emitter program).1 =
      .error (.undefinedVariable "y" 3) := by decide +kernel
  have value : (Machine.fresh.executeAll Listing.emitter program).2.valueOf? "1" =
      some (.integer 5) := by decide +kernel
  obtain ⟨sameOutput, -, sameVariables⟩ :=
    (renaming_keeps_behaviour injective program).2.1 Listing Listing.emitter {}
  refine ⟨injective, failed, ?_, ?_⟩
  · have failedUnused : ((Machine.unused {}).executeAll Listing.emitter program).1 =
        .error (.undefinedVariable "y" 3) := failed
    rw [failedUnused] at sameOutput
    exact sameOutput
  · exact (sameVariables "1").trans value

end Reckoner
