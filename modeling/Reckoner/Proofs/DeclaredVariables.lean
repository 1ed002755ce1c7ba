import Reckoner.Proofs.Definedness
import Reckoner.Scope

/-!
Contract: the check of declarations and the run agree on which variables exist.

The check records the names that a program declares; the run sets a variable at every declaration
and every assignment, and makes no difference between the two.  In a program that passed the check
both come to the same: behind any number of statements that succeeded, the variables with a value
are the declared ones.

Owns: the names that a program declares, the equations of the check, and the agreement with a run.

Does not own: the lines that the check records.
-/

namespace Reckoner

def Statement.declared? : Statement → Option String
  | .declare name _ _ => some name
  | .assign .. | .print .. => none

def declaredNames (program : Program) : List String :=
  program.filterMap Statement.declared?

theorem mem_targets_of_mem_declaredNames
    {program : Program}
    {name : String}
    (declared : name ∈ declaredNames program) :
    name ∈ targets program := by
  obtain ⟨statement, inProgram, isDeclared⟩ := List.mem_filterMap.mp declared
  refine List.mem_filterMap.mpr ⟨statement, inProgram, ?_⟩
  cases statement with
  | declare target value line => exact isDeclared
  | assign target value line | print value line => cases isDeclared

namespace Declarations

/-! ### Accepted programs -/

/-- A declaration is legal for a new name and records it; an assignment is legal for a known one. -/
theorem checkStatement_eq_ok_iff (known extended : Declarations) (statement : Statement) :
    known.checkStatement statement = .ok extended ↔
      match statement with
      | .declare name _ line => ¬ known.contains name ∧ known.insert name line = extended
      | .assign name _ _ => known.contains name ∧ known = extended
      | .print .. => known = extended := by
  cases statement with
  | declare name value line =>
      cases found : known.find? name <;> simp [checkStatement, NameMap.contains, found]
  | assign name value line =>
      by_cases declared : known.contains name <;> simp [checkStatement, declared]
  | print value line => simp [checkStatement]

theorem check_cons_eq_ok_iff
    (known later : Declarations)
    (statement : Statement)
    (rest : Program) :
    known.check (statement :: rest) = (.ok (), later) ↔
      ∃ extended, known.checkStatement statement = .ok extended ∧
        extended.check rest = (.ok (), later) := by
  rw [check]
  cases known.checkStatement statement <;> simp

/-- The declarations of the first part are known to the second one. -/
theorem check_append_eq_ok_iff (known later : Declarations) (first second : Program) :
    known.check (first ++ second) = (.ok (), later) ↔
      ∃ middle, known.check first = (.ok (), middle) ∧ middle.check second = (.ok (), later) := by
  induction first generalizing known with
  | nil => simp [check]
  | cons statement rest inductionHypothesis =>
      simp only [List.cons_append, check_cons_eq_ok_iff, inductionHypothesis]
      constructor
      · rintro ⟨extended, legal, middle, checked, behind⟩
        exact ⟨middle, ⟨extended, legal, checked⟩, behind⟩
      · rintro ⟨middle, ⟨extended, legal, checked⟩, behind⟩
        exact ⟨extended, legal, middle, checked, behind⟩

section

variable {known extended later : Declarations} {statement : Statement} {program : Program}

private theorem contains_iff_declared
    (legal : known.checkStatement statement = .ok extended)
    (name : String) :
    extended.contains name ↔ known.contains name ∨ statement.declared? = some name := by
  rw [checkStatement_eq_ok_iff] at legal
  cases statement with
  | declare target value line =>
      obtain ⟨-, rfl⟩ := legal
      simp [NameMap.contains_insert, Statement.declared?]
  | assign target value line =>
      obtain ⟨-, rfl⟩ := legal
      simp [Statement.declared?]
  | print value line =>
      obtain rfl := legal
      simp [Statement.declared?]

/-- A legal assignment adds no name, so the targets are recorded as well. -/
theorem contains_iff_target
    (legal : known.checkStatement statement = .ok extended)
    (name : String) :
    extended.contains name ↔ known.contains name ∨ statement.target? = some name := by
  rw [contains_iff_declared legal]
  rw [checkStatement_eq_ok_iff] at legal
  cases statement with
  | declare target value line | print value line => rfl
  | assign target value line =>
      have knownTarget : target = name → known.contains name := fun same => same ▸ legal.1
      simpa [Statement.declared?, Statement.target?] using knownTarget

/-- What each legal statement adds to the recorded names, a legal program adds as a whole. -/
theorem contains_check
    {added : Statement → Option String}
    (adds : ∀ {known extended : Declarations} {statement : Statement},
      known.checkStatement statement = .ok extended → ∀ name,
        (extended.contains name ↔ known.contains name ∨ added statement = some name))
    (checked : known.check program = (.ok (), later))
    (name : String) :
    later.contains name ↔ known.contains name ∨ name ∈ program.filterMap added := by
  induction program generalizing known with
  | nil =>
      obtain rfl : known = later := (Prod.mk.inj checked).2
      simp
  | cons statement rest inductionHypothesis =>
      obtain ⟨extended, legal, checkedRest⟩ := (check_cons_eq_ok_iff _ _ _ _).mp checked
      rw [inductionHypothesis checkedRest, adds legal, or_assoc]
      simp

end

end Declarations

/-! ### Agreement with a run -/

private theorem contains_of_accepted
    {known : Declarations}
    {program : Program}
    (checked : Declarations.check .empty program = (.ok (), known))
    {added : Statement → Option String}
    (adds : ∀ {known extended : Declarations} {statement : Statement},
      known.checkStatement statement = .ok extended → ∀ name,
        (extended.contains name ↔ known.contains name ∨ added statement = some name))
    (name : String) :
    known.contains name ↔ name ∈ program.filterMap added := by
  have nothing : (NameMap.empty : Declarations).contains name = false := rfl
  simpa [nothing] using Declarations.contains_check adds checked name

/-- The recorded names behind a part of a program that passed the check are the variables that have
a value when this part was executed. -/
theorem Machine.Executes.contains_iff_known
    {σ : Type}
    {emitter : Emitter σ}
    {emitted : σ}
    {reached : Machine σ}
    {known : Declarations}
    {program : Program}
    (executes : (unused emitted).Executes emitter program reached)
    (checked : Declarations.check .empty program = (.ok (), known))
    (name : String) :
    reached.environment.contains name ↔ known.contains name := by
  rw [executes.contains_iff_of_unused, targets,
    contains_of_accepted checked Declarations.contains_iff_target]

/-- **The check and the run agree on the variables.**  In a program that passed the check, a
declaration that is reached finds its variable without a value and an assignment finds one with a
value; the variables that have a value are the declared names, behind every part of the program and
behind the whole. -/
theorem variables_are_declared
    {σ : Type}
    (emitter : Emitter σ)
    (emitted : σ)
    {program : Program}
    (accepted : (Declarations.check .empty program).1 = .ok ()) :
    (∀ before name value line after reached,
      program = before ++ .declare name value line :: after →
      (Machine.unused emitted).Executes emitter before reached →
      reached.valueOf? name = none) ∧
    (∀ before name value line after reached,
      program = before ++ .assign name value line :: after →
      (Machine.unused emitted).Executes emitter before reached →
      (reached.valueOf? name).isSome) ∧
    (∀ before after reached,
      program = before ++ after →
      (Machine.unused emitted).Executes emitter before reached →
      ∀ name, (reached.valueOf? name).isSome ↔ name ∈ declaredNames before) ∧
    (∀ printed later,
      (Machine.unused emitted).executeAll emitter program = (.ok printed, later) →
      ∀ name, (later.valueOf? name).isSome ↔
        (Declarations.check .empty program).2.contains name) := by
  have checked : Declarations.check .empty program =
      (.ok (), (Declarations.check .empty program).2) := Prod.ext accepted rfl
  -- What the check knew when it came to a statement that the run has reached.
  have legal : ∀ before statement after reached,
      program = before ++ statement :: after →
      (Machine.unused emitted).Executes emitter before reached →
      ∃ known extended : Declarations, known.checkStatement statement = .ok extended ∧
        ∀ name, reached.environment.contains name ↔ known.contains name := by
    rintro before statement after reached rfl executes
    obtain ⟨known, checkedBefore, checkedBehind⟩ :=
      (Declarations.check_append_eq_ok_iff _ _ _ _).mp checked
    obtain ⟨extended, legal, -⟩ := (Declarations.check_cons_eq_ok_iff _ _ _ _).mp checkedBehind
    exact ⟨known, extended, legal, executes.contains_iff_known checkedBefore⟩
  refine ⟨?_, ?_, ?_, ?_⟩
  · intro before name value line after reached split executes
    obtain ⟨known, extended, legal, agrees⟩ := legal _ _ _ _ split executes
    have unknown := ((Declarations.checkStatement_eq_ok_iff _ _ _).mp legal).1
    rw [← agrees, NameMap.contains, Bool.not_eq_true, Option.isSome_eq_false_iff,
      Option.isNone_iff_eq_none] at unknown
    exact unknown
  · intro before name value line after reached split executes
    obtain ⟨known, extended, legal, agrees⟩ := legal _ _ _ _ split executes
    exact (agrees name).mpr ((Declarations.checkStatement_eq_ok_iff _ _ _).mp legal).1
  · rintro before after reached rfl executes name
    obtain ⟨known, checkedBefore, -⟩ := (Declarations.check_append_eq_ok_iff _ _ _ _).mp checked
    rw [declaredNames, ← contains_of_accepted checkedBefore Declarations.contains_iff_declared]
    exact executes.contains_iff_known checkedBefore name
  · intro printed later succeeded name
    have executes : (Machine.unused emitted).Executes emitter program later := ⟨printed, succeeded⟩
    exact executes.contains_iff_known checked name

theorem variables_are_declared_reassigned :
    let program : Program :=
      [.declare "x" (.number (.integer 1) 1) 1, .assign "x" (.identifier "x" 2) 2]
    (Declarations.check .empty program).1 = .ok () ∧
    (∀ reached, (Machine.unused {}).Executes Listing.emitter (program.take 1) reached →
      (reached.valueOf? "x").isSome) ∧
    ∃ printed later,
      (Machine.unused {}).executeAll Listing.emitter program = (.ok printed, later) ∧
      ∀ name, (later.valueOf? name).isSome ↔
        (Declarations.check .empty program).2.contains name := by
  intro program
  have accepted : (Declarations.check .empty program).1 = .ok () := by decide
  obtain ⟨-, assigned, -, whole⟩ := variables_are_declared Listing.emitter {} accepted
  refine ⟨accepted, ?_, _, _, rfl, whole _ _ rfl⟩
  intro reached executes
  exact assigned (program.take 1) "x" _ _ [] reached rfl executes

end Reckoner
