import Reckoner.Proofs.DeclaredVariables

/-!
Contract: the check accepts exactly the legal sequences of declarations, over any number of calls.

Whether a statement is legal depends on the names that were known at first and on those that the
statements before it declare.  The check comes to the first statement that is not legal, reports it
with the line under which its name is on record, and keeps the declarations up to there.  What is on
record is never changed, so a program may be checked in parts.

Owns: legal statements, the lines on record behind a part of a program, and the check of programs in
turn.

Does not own: the values of the variables.
-/

namespace Reckoner

/-! ### Names on record -/

/-- The line of a statement, if it declares the name. -/
def Statement.declarationOf? (name : String) : Statement → Option Nat
  | .declare target _ line => if target = name then some line else none
  | .assign .. | .print .. => none

/-- The line of the first declaration of a name in a program. -/
def firstDeclaration? (program : Program) (name : String) : Option Nat :=
  program.findSome? (Statement.declarationOf? name)

private theorem Statement.isSome_declarationOf?_iff (name : String) (statement : Statement) :
    (statement.declarationOf? name).isSome ↔ statement.declared? = some name := by
  cases statement with
  | declare target value line =>
      by_cases same : target = name <;> simp [declarationOf?, declared?, same]
  | assign target value line | print value line => simp [declarationOf?, declared?]

private theorem isSome_firstDeclaration?_iff (program : Program) (name : String) :
    (firstDeclaration? program name).isSome ↔ name ∈ declaredNames program := by
  simp only [firstDeclaration?, List.isSome_findSome?, List.any_eq_true,
    Statement.isSome_declarationOf?_iff, declaredNames, List.mem_filterMap]

private theorem firstDeclaration?_append (first second : Program) (name : String) :
    firstDeclaration? (first ++ second) name =
      (firstDeclaration? first name).or (firstDeclaration? second name) :=
  List.findSome?_append

namespace NameMap

variable {α : Type}

/-- A new name makes one entry more. -/
theorem size_insert_of_new
    {map : NameMap α}
    {name : String}
    (new : map.find? name = none)
    (value : α) :
    (map.insert name value).size = map.size + 1 := by
  obtain ⟨entries⟩ := map
  simp only [size, insert, find?] at new ⊢
  induction entries with
  | nil => rfl
  | cons entry rest inductionHypothesis =>
      obtain ⟨key, old⟩ := entry
      by_cases same : key = name
      · simp [findIn, same] at new
      · simp only [findIn, if_neg same] at new
        simp [insertIn, same, inductionHypothesis new]

end NameMap

namespace Declarations

/-! ### Legal statements -/

/-- The line under which a name is on record behind a part of a program: the one that was known at
first, or else that of its first declaration. -/
def recordedLine? (known : Declarations) (seen : Program) (name : String) : Option Nat :=
  (known.find? name).or (firstDeclaration? seen name)

/-- Whether a statement is legal behind a part of a program.  It declares a name that is neither
known nor declared before, or assigns to one that is. -/
def LegalBehind (known : Declarations) (seen : Program) : Statement → Prop
  | .declare name _ _ => ¬ known.contains name ∧ name ∉ declaredNames seen
  | .assign name _ _ => known.contains name ∨ name ∈ declaredNames seen
  | .print .. => True

/-- Every statement of a program is legal behind those before it. -/
def AllLegal (known : Declarations) (program : Program) : Prop :=
  ∀ before statement after, program = before ++ statement :: after →
    LegalBehind known before statement

/-- The error for a statement that is not legal: it names the target and the line of the statement,
and for a declaration also the line under which the target is on record. -/
def Blames (known : Declarations) (seen : Program) : Statement → ScopeError → Prop
  | .declare name _ line, .alreadyDeclared blamed blamedLine firstLine =>
      blamed = name ∧ blamedLine = line ∧ recordedLine? known seen name = some firstLine
  | .assign name _ line, .notDeclared blamed blamedLine => blamed = name ∧ blamedLine = line
  | _, _ => False

private theorem isSome_recordedLine?_iff (known : Declarations) (seen : Program) (name : String) :
    (recordedLine? known seen name).isSome ↔ known.contains name ∨ name ∈ declaredNames seen := by
  rw [recordedLine?, Option.isSome_or, Bool.or_eq_true, isSome_firstDeclaration?_iff]
  rfl

private theorem allLegal_nil (known : Declarations) : AllLegal known [] := by
  intro before statement after split
  simp at split

/-- Legality is decided from left to right. -/
theorem AllLegal.concat
    {known : Declarations}
    {seen : Program}
    {statement : Statement}
    (allLegal : AllLegal known seen)
    (legal : LegalBehind known seen statement) :
    AllLegal known (seen ++ [statement]) := by
  intro before other after split
  obtain rfl | ⟨others, last, rfl⟩ := List.eq_nil_or_concat after
  · obtain ⟨rfl, same⟩ := List.append_inj' split rfl
    obtain rfl := List.singleton_inj.mp same
    exact legal
  · have regrouped : seen ++ [statement] = (before ++ other :: others) ++ [last] := by
      simpa using split
    exact allLegal before other others (List.append_inj' regrouped rfl).1

/-! ### One statement -/

/-- The declarations that are on record behind a part of a program. -/
structure Records (known : Declarations) (seen : Program) (reached : Declarations) : Prop where
  lines : ∀ name, reached.find? name = recordedLine? known seen name
  size : reached.size = known.size + (declaredNames seen).length

private theorem records_nil (known : Declarations) : Records known [] known where
  lines := by simp [recordedLine?, firstDeclaration?]
  size := rfl

section Step

variable {known reached extended : Declarations} {seen : Program} {statement : Statement}

/-- Known are the names from before and those declared on the way. -/
theorem Records.contains_iff (records : Records known seen reached) (name : String) :
    reached.contains name ↔ known.contains name ∨ name ∈ declaredNames seen := by
  rw [NameMap.contains, records.lines, isSome_recordedLine?_iff]

/-- A statement that passes is legal, and what it declares is on record from then on. -/
theorem Records.legal_of_checkStatement
    (records : Records known seen reached)
    (passed : reached.checkStatement statement = .ok extended) :
    LegalBehind known seen statement ∧ Records known (seen ++ [statement]) extended := by
  rw [checkStatement_eq_ok_iff] at passed
  have unchanged : statement.declared? = none → reached = extended →
      Records known (seen ++ [statement]) extended := by
    rintro declaresNothing rfl
    have noLine (name : String) : firstDeclaration? [statement] name = none := by
      rw [← Option.not_isSome_iff_eq_none, isSome_firstDeclaration?_iff]
      simp [declaredNames, declaresNothing]
    refine ⟨?_, ?_⟩
    · intro name
      rw [records.lines, recordedLine?, recordedLine?, firstDeclaration?_append, noLine,
        Option.or_none]
    · rw [records.size, declaredNames, declaredNames, List.filterMap_append]
      simp [declaresNothing]
  cases statement with
  | declare target value line =>
      obtain ⟨new, rfl⟩ := passed
      have unrecorded : reached.find? target = none := by
        simpa [NameMap.contains] using new
      refine ⟨?_, ?_, ?_⟩
      · rw [records.contains_iff] at new
        exact not_or.mp new
      · intro name
        rw [NameMap.find?_insert, records.lines, recordedLine?, recordedLine?,
          firstDeclaration?_append, ← Option.or_assoc]
        have here : firstDeclaration? [.declare target value line] name =
            if target = name then some line else none := by
          simp [firstDeclaration?, Statement.declarationOf?]
        rw [here]
        by_cases same : target = name
        · rw [records.lines, recordedLine?, same] at unrecorded
          rw [if_pos same, if_pos same, unrecorded, Option.none_or]
        · rw [if_neg same, if_neg same, Option.or_none]
      · rw [NameMap.size_insert_of_new unrecorded, records.size, declaredNames, declaredNames,
          List.filterMap_append]
        simp [Statement.declared?, Nat.add_assoc]
  | assign target value line =>
      obtain ⟨declared, same⟩ := passed
      exact ⟨(records.contains_iff target).mp declared, unchanged rfl same⟩
  | print value line => exact ⟨trivial, unchanged rfl passed⟩

/-- A statement that does not pass is not legal, and the error is the one for it. -/
theorem Records.blames_of_checkStatement
    {error : ScopeError}
    (records : Records known seen reached)
    (refused : reached.checkStatement statement = .error error) :
    ¬ LegalBehind known seen statement ∧ Blames known seen statement error := by
  cases statement with
  | declare target value line =>
      unfold checkStatement at refused
      cases found : reached.find? target with
      | none => simp only [found, reduceCtorEq] at refused
      | some firstLine =>
          simp only [found, Except.error.injEq] at refused
          subst refused
          have recorded := (records.lines target).symm.trans found
          have isDeclared := (isSome_recordedLine?_iff known seen target).mp (by simp [recorded])
          exact ⟨fun legal => not_or.mpr legal isDeclared, rfl, rfl, recorded⟩
  | assign target value line =>
      by_cases declared : reached.contains target
      · rw [checkStatement, if_pos declared] at refused
        cases refused
      · rw [checkStatement, if_neg declared] at refused
        cases refused
        rw [records.contains_iff] at declared
        exact ⟨declared, rfl, rfl⟩
  | print value line => cases refused

end Step

/-! ### Programs -/

/-- What the check yields behind a legal part of a program, with `rest` still to come: the first
statement of `rest` is not legal and is reported, or nothing is left. -/
def Reports (known : Declarations) (seen rest : Program) (result : Except ScopeError Unit) : Prop :=
  match rest with
  | [] => result = .ok ()
  | statement :: _ =>
      ¬ LegalBehind known seen statement ∧
      ∃ error, result = .error error ∧ Blames known seen statement error

/-- The check goes on through the legal statements of a program, and stops at the first other
one. -/
theorem exists_reports_of_records
    {known reached : Declarations}
    {before : Program}
    (records : Records known before reached)
    (allLegal : AllLegal known before)
    (program : Program) :
    ∃ seen rest, program = seen ++ rest ∧ AllLegal known (before ++ seen) ∧
      Reports known (before ++ seen) rest (reached.check program).1 ∧
      Records known (before ++ seen) (reached.check program).2 := by
  -- What is on record depends on the part that was seen, so this part grows along the induction.
  induction program generalizing before reached with
  | nil =>
      refine ⟨[], [], rfl, ?_, rfl, ?_⟩
      · rwa [List.append_nil]
      · rwa [List.append_nil]
  | cons statement others inductionHypothesis =>
      rw [check]
      cases passed : reached.checkStatement statement with
      | error error =>
          have blamed := records.blames_of_checkStatement passed
          refine ⟨[], statement :: others, rfl, ?_, ?_, ?_⟩
          · rwa [List.append_nil]
          · rw [List.append_nil]
            exact ⟨blamed.1, error, rfl, blamed.2⟩
          · rwa [List.append_nil]
      | ok extended =>
          obtain ⟨legal, recordsBehind⟩ := records.legal_of_checkStatement passed
          obtain ⟨seen, rest, rfl, allLegalBehind, reports, recordsAll⟩ :=
            inductionHypothesis recordsBehind (allLegal.concat legal)
          rw [List.append_assoc, List.singleton_append] at allLegalBehind reports recordsAll
          exact ⟨statement :: seen, rest, rfl, allLegalBehind, reports, recordsAll⟩

/-- The check goes through a legal part of the program and reports what it finds behind it. -/
theorem exists_reports (known : Declarations) (program : Program) :
    ∃ seen rest, program = seen ++ rest ∧ AllLegal known seen ∧
      Reports known seen rest (known.check program).1 ∧
      Records known seen (known.check program).2 :=
  exists_reports_of_records (records_nil known) (allLegal_nil known) program

/-- The check passes exactly the programs in which every statement is legal. -/
theorem check_eq_ok_iff_allLegal (known : Declarations) (program : Program) :
    (known.check program).1 = .ok () ↔ AllLegal known program := by
  obtain ⟨seen, rest, rfl, allLegal, reports, -⟩ := exists_reports known program
  cases rest with
  | nil =>
      rw [List.append_nil] at reports ⊢
      exact iff_of_true reports allLegal
  | cons statement others =>
      obtain ⟨illegal, error, refused, -⟩ := reports
      refine iff_of_false ?_ ?_
      · rw [refused]
        simp
      · intro legal
        exact illegal (legal seen statement others rfl)

/-- Two programs are checked as one, the second only if the first passes. -/
theorem check_append (known : Declarations) (first second : Program) :
    known.check (first ++ second) =
      match known.check first with
      | (.ok (), later) => later.check second
      | (.error error, later) => (.error error, later) := by
  induction first generalizing known with
  | nil => rfl
  | cons statement rest inductionHypothesis =>
      rw [List.cons_append, check, check]
      cases known.checkStatement statement with
      | error error => rfl
      | ok extended => exact inductionHypothesis extended

/-! ### Any number of calls -/

/-- Checks programs in turn, up to the first that does not pass. -/
def checkInTurn (known : Declarations) : List Program → Except ScopeError Unit × Declarations
  | [] => (.ok (), known)
  | program :: others =>
      match known.check program with
      | (.ok (), later) => later.checkInTurn others
      | (.error error, later) => (.error error, later)

/-- The declarations behind a sequence of checks, each of which may pass or fail. -/
def afterChecks (known : Declarations) (programs : List Program) : Declarations :=
  programs.foldl (fun known program => (known.check program).2) known

private theorem checkInTurn_eq_check_flatten (known : Declarations) (programs : List Program) :
    known.checkInTurn programs = known.check programs.flatten := by
  induction programs generalizing known with
  | nil => rfl
  | cons program others inductionHypothesis =>
      rw [List.flatten_cons, check_append, checkInTurn]
      simp only [inductionHypothesis]

private theorem find?_check_of_some
    {known : Declarations}
    {name : String}
    {line : Nat}
    (found : known.find? name = some line)
    (program : Program) :
    (known.check program).2.find? name = some line := by
  obtain ⟨seen, rest, -, -, -, records⟩ := exists_reports known program
  rw [records.lines, recordedLine?, found, Option.some_or]

private theorem find?_afterChecks_of_some
    {known : Declarations}
    {name : String}
    {line : Nat}
    (found : known.find? name = some line)
    (programs : List Program) :
    (known.afterChecks programs).find? name = some line := by
  induction programs generalizing known with
  | nil => exact found
  | cons program others inductionHypothesis =>
      exact inductionHypothesis (find?_check_of_some found program)

/-- **The check accepts exactly the legal programs.**  From any known declarations a program passes
exactly when all its statements are legal.  Otherwise the first statement that is not is reported.
Behind the check the known names are on record as before, and besides them the declarations of the
statements up to there, or of all.  Programs that are checked in turn are checked like one, and no
sequence of checks changes a name that is on record. -/
theorem check_accepts_exactly_legal (known : Declarations) :
    (∀ program, (known.check program).1 = .ok () ↔ AllLegal known program) ∧
    (∀ program, ∃ seen rest, program = seen ++ rest ∧ AllLegal known seen ∧
      Reports known seen rest (known.check program).1 ∧
      (∀ name, (known.check program).2.find? name =
        (known.find? name).or (firstDeclaration? seen name)) ∧
      (known.check program).2.size = known.size + (declaredNames seen).length) ∧
    (∀ first second, known.check (first ++ second) =
      match known.check first with
      | (.ok (), later) => later.check second
      | (.error error, later) => (.error error, later)) ∧
    (∀ programs, known.checkInTurn programs = known.check programs.flatten) ∧
    (∀ programs name line, known.find? name = some line →
      (known.afterChecks programs).find? name = some line) := by
  refine ⟨check_eq_ok_iff_allLegal known, ?_, check_append known, checkInTurn_eq_check_flatten known,
    fun programs name line found => find?_afterChecks_of_some found programs⟩
  intro program
  obtain ⟨seen, rest, split, allLegal, reports, records⟩ := exists_reports known program
  exact ⟨seen, rest, split, allLegal, reports, records.lines, records.size⟩

end Declarations

end Reckoner
