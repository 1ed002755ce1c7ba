import Reckoner.Proofs.Grammar

/-!
Contract: what a grammar error says about the tokens for which it is reported.

An error that blames a token blames the first one with which the tokens cannot go on: what stands
before it is the start of an accepted list, and whatever follows it the error stays the same.  An
error about missing tokens is reported only for tokens that could go on.  A wrong number of operands
shows when the run of operands ends; at the end of the tokens it can still be mended as long as
operands are missing, and never once there are too many.

Owns: the start of accepted lists, rejected starts, the three diagnoses, and that every error of the
reader is diagnosed by one of them.

Does not own: the line that an error about missing tokens names.
-/

namespace Reckoner

namespace Arity

def count : Arity → Nat
  | .exact count | .atLeast count => count

private theorem accepts_count (arity : Arity) : arity.accepts arity.count := by
  cases arity <;> simp [accepts, count]

/-- A refused number of operands that becomes acceptable by adding some was too small. -/
theorem lt_count_of_accepts_add
    {arity : Arity}
    {found more : Nat}
    (refused : ¬ arity.accepts found)
    (accepted : arity.accepts (found + more)) :
    found < arity.count := by
  cases arity with
  | exact required =>
      simp only [accepts, beq_iff_eq, count] at refused accepted ⊢
      omega
  | atLeast required =>
      simp only [accepts, decide_eq_true_eq, count] at refused accepted ⊢
      omega

end Arity

namespace Grammar

/-! ### Diagnoses -/

/-- Tokens with which an accepted list starts. -/
def Extensible (tokens : List PlacedToken) : Prop :=
  ∃ more program, Parse.program (tokens ++ more) = .ok program

/-- Tokens that spoil every list that starts with them, always with the same error. -/
def Rejected (tokens : List PlacedToken) (error : GrammarError) : Prop :=
  ∀ more, Parse.program (tokens ++ more) = .error error

/-- The error is about one of the tokens, and this is the first one that cannot follow: an accepted
list starts with the tokens before it, and every list that reaches it is rejected with this error.
The message shows the token and its line. -/
def Blames (tokens : List PlacedToken) (error : GrammarError) (placed : PlacedToken) : Prop :=
  (∃ opening, error.message = messageOnLine placed.line (opening ++ placed.token.text)) ∧
  ∃ before after,
    tokens = before ++ placed :: after ∧ Extensible before ∧ Rejected (before ++ [placed]) error

/-- The error is about an operator that stands where an expression is expected, and about the whole
run of terms behind it.  When something else follows the run, every longer list is rejected in the
same way.  When the tokens end with the run, they can be completed exactly if terms are missing. -/
def Miscounts
    (tokens : List PlacedToken)
    (error : GrammarError)
    (operator : Operator)
    (found line : Nat) : Prop :=
  ∃ before operands after,
    tokens = before ++ ⟨.operator operator, line⟩ :: (operands ++ after) ∧
    (∀ term : PlacedToken, term.token.isTerm →
      ∃ program, Parse.program (before ++ [term]) = .ok program) ∧
    (∀ operand ∈ operands, operand.token.isTerm) ∧
    operands.length = found ∧
    ((∃ next rest, after = next :: rest ∧ ¬ next.token.isTerm ∧ Rejected tokens error) ∨
      (after = [] ∧ (Extensible tokens ↔ found < operator.arity.count)))

/-- What an error says about the tokens for which it is reported. -/
def Diagnosed (tokens : List PlacedToken) (error : GrammarError) : Prop :=
  match error with
  | .unexpectedToken token line | .expectedIdentifier token line | .expectedAssign _ token line
  | .unexpectedTokenInTerm token line => Blames tokens error ⟨token, line⟩
  | .unexpectedEnd _ => Extensible tokens
  | .arityViolation operator expected found line =>
      expected = operator.arity ∧ Miscounts tokens error operator found line

/-! ### Tokens behind a complete statement -/

private theorem startsWithTerm_append
    {tokens : List PlacedToken}
    (nonempty : tokens ≠ [])
    (more : List PlacedToken) :
    startsWithTerm (tokens ++ more) = startsWithTerm tokens := by
  rw [startsWithTerm, startsWithTerm, List.head?_append_of_ne_nil _ nonempty]

/-- A written form that is followed by `rest` is complete without it. -/
theorem written_split
    {slots : List Slot}
    {tokens rest : List PlacedToken}
    (written : Written slots tokens rest) :
    ∃ front, tokens = front ++ rest ∧ Written slots front [] := by
  induction slots generalizing tokens with
  | nil => exact ⟨[], written, rfl⟩
  | cons slot slots inductionHypothesis =>
      obtain ⟨placed, following, rfl, fills, remaining⟩ := (written_cons _ _ _ _).mp written
      obtain ⟨front, rfl, complete⟩ := inductionHypothesis remaining
      exact ⟨placed :: front, rfl, fills, complete⟩

/-- A statement and the tokens of which it is read. -/
structure Complete (statement : Statement) (tokens : List PlacedToken) : Prop where
  flat : statement.value.isFlat
  written : Written (statementSlots statement) tokens []

/-- Tokens that may stand behind a statement without being taken for operands of it. -/
def MayFollow (statement : Statement) (tokens : List PlacedToken) : Prop :=
  statement.value.isOperation → ¬ startsWithTerm tokens

/-- The reader takes one statement off the tokens and leaves what may follow it. -/
theorem complete_of_statement
    {tokens rest : List PlacedToken}
    {first : Statement}
    (read : Parse.statement tokens = (.ok first, rest)) :
    ∃ front, tokens = front ++ rest ∧ Complete first front ∧ MayFollow first rest := by
  obtain ⟨flat, written, stops⟩ := (statement_eq_ok_iff _ _ _).mp read
  obtain ⟨front, same, complete⟩ := written_split written
  exact ⟨front, same, ⟨flat, complete⟩, stops⟩

/-- A complete statement is read and the program goes on with the tokens behind it. -/
theorem Complete.program_append
    {first : Statement}
    {front rest : List PlacedToken}
    (complete : Complete first front)
    (mayFollow : MayFollow first rest) :
    Parse.program (front ++ rest) = (Parse.program rest).map (first :: ·) := by
  apply program_of_statement
  rw [statement_eq_ok_iff]
  exact ⟨complete.flat, written_append_right complete.written rest, mayFollow⟩

section Behind

variable {first : Statement} {front : List PlacedToken}

theorem MayFollow.nil (first : Statement) : MayFollow first [] := by
  intro _
  simp [startsWithTerm]

/-- Whether tokens may follow is decided by the first one. -/
theorem MayFollow.of_append
    {start : List PlacedToken}
    (nonempty : start ≠ [])
    {more : List PlacedToken}
    (mayFollow : MayFollow first (start ++ more)) :
    MayFollow first start := by
  intro operation
  rw [← startsWithTerm_append nonempty more]
  exact mayFollow operation

theorem MayFollow.append
    {start : List PlacedToken}
    (nonempty : start ≠ [])
    (mayFollow : MayFollow first start)
    (more : List PlacedToken) :
    MayFollow first (start ++ more) := by
  intro operation
  rw [startsWithTerm_append nonempty more]
  exact mayFollow operation

private theorem Complete.program_append_eq_error
    {rest : List PlacedToken}
    {error : GrammarError}
    (complete : Complete first front)
    (mayFollow : MayFollow first rest)
    (failed : Parse.program rest = .error error) :
    Parse.program (front ++ rest) = .error error := by
  rw [complete.program_append mayFollow, failed]
  rfl

/-- A complete statement before the tokens has no part in an error behind it. -/
theorem Complete.program_eq_error_of_append
    {rest : List PlacedToken}
    {error : GrammarError}
    (complete : Complete first front)
    (mayFollow : MayFollow first rest)
    (failed : Parse.program (front ++ rest) = .error error) :
    Parse.program rest = .error error := by
  rw [complete.program_append mayFollow] at failed
  cases later : Parse.program rest with
  | error found =>
      rw [later] at failed
      exact failed
  | ok others =>
      rw [later] at failed
      cases failed

theorem Complete.program_append_eq_ok_iff
    {rest : List PlacedToken}
    (complete : Complete first front)
    (mayFollow : MayFollow first rest) :
    (∃ program, Parse.program (front ++ rest) = .ok program) ↔
      ∃ program, Parse.program rest = .ok program := by
  rw [complete.program_append mayFollow]
  cases Parse.program rest <;> simp [Except.map]

theorem Extensible.of_append
    {start more : List PlacedToken}
    (extensible : Extensible (start ++ more)) :
    Extensible start := by
  obtain ⟨further, program, accepted⟩ := extensible
  rw [List.append_assoc] at accepted
  exact ⟨more ++ further, program, accepted⟩

private theorem Complete.extensible
    (complete : Complete first front) :
    Extensible front := by
  refine ⟨[], [first], ?_⟩
  rw [complete.program_append (.nil first), program_nil]
  rfl

/-- Complete statements do not change what tokens can be extended to. -/
theorem Complete.extensible_append_iff
    {start : List PlacedToken}
    (complete : Complete first front)
    (nonempty : start ≠ [])
    (mayFollow : MayFollow first start) :
    Extensible (front ++ start) ↔ Extensible start := by
  apply exists_congr
  intro more
  rw [List.append_assoc]
  exact complete.program_append_eq_ok_iff (mayFollow.append nonempty more)

private theorem Complete.rejected_append
    {start : List PlacedToken}
    {error : GrammarError}
    (complete : Complete first front)
    (nonempty : start ≠ [])
    (mayFollow : MayFollow first start)
    (rejected : Rejected start error) :
    Rejected (front ++ start) error := by
  intro more
  rw [List.append_assoc]
  exact complete.program_append_eq_error (mayFollow.append nonempty more) (rejected more)

private theorem Complete.blames_append
    {rest : List PlacedToken}
    {error : GrammarError}
    {placed : PlacedToken}
    (complete : Complete first front)
    (mayFollow : MayFollow first rest)
    (blames : Blames rest error placed) :
    Blames (front ++ rest) error placed := by
  obtain ⟨message, before, after, rfl, extensible, rejected⟩ := blames
  refine ⟨message, front ++ before, after, by rw [List.append_assoc], ?_, ?_⟩
  · by_cases empty : before = []
    · subst empty
      rw [List.append_nil]
      exact complete.extensible
    · exact (complete.extensible_append_iff empty (mayFollow.of_append empty)).mpr extensible
  · rw [List.append_assoc]
    apply complete.rejected_append (by simp) _ rejected
    rw [List.append_cons] at mayFollow
    exact mayFollow.of_append (by simp)

private theorem Complete.miscounts_append
    {rest : List PlacedToken}
    {error : GrammarError}
    {operator : Operator}
    {found line : Nat}
    (complete : Complete first front)
    (mayFollow : MayFollow first rest)
    (miscounts : Miscounts rest error operator found line) :
    Miscounts (front ++ rest) error operator found line := by
  obtain ⟨before, operands, after, rfl, expected, terms, count, diagnosis⟩ := miscounts
  have beforeNonempty : before ≠ [] := by
    rintro rfl
    obtain ⟨program, accepted⟩ := expected ⟨.number (.integer 0), 0⟩ rfl
    rw [List.nil_append, program_cons] at accepted
    simp [Parse.statement] at accepted
  have behindBefore := mayFollow.of_append beforeNonempty
  refine ⟨front ++ before, operands, after, by rw [List.append_assoc], ?_, terms, count, ?_⟩
  · intro term isTerm
    rw [List.append_assoc]
    exact (complete.program_append_eq_ok_iff (behindBefore.append beforeNonempty _)).mpr
      (expected term isTerm)
  · rcases diagnosis with ⟨next, others, rfl, noTerm, rejected⟩ | ⟨rfl, extensible⟩
    · exact .inl ⟨next, others, rfl, noTerm, complete.rejected_append (by simp) mayFollow rejected⟩
    · refine .inr ⟨rfl, ?_⟩
      rw [complete.extensible_append_iff (by simp) mayFollow, extensible]

/-- A diagnosis stays right when a complete statement is put before the tokens. -/
theorem Complete.diagnosed_append
    {rest : List PlacedToken}
    {error : GrammarError}
    (complete : Complete first front)
    (nonempty : rest ≠ [])
    (mayFollow : MayFollow first rest)
    (diagnosed : Diagnosed rest error) :
    Diagnosed (front ++ rest) error := by
  cases error with
  | unexpectedToken token line | expectedIdentifier token line | expectedAssign name token line
  | unexpectedTokenInTerm token line => exact complete.blames_append mayFollow diagnosed
  | unexpectedEnd line => exact (complete.extensible_append_iff nonempty mayFollow).mpr diagnosed
  | arityViolation operator expected found line =>
      exact ⟨diagnosed.1, complete.miscounts_append mayFollow diagnosed.2⟩

end Behind

/-! ### Runs of operands -/

/-- The tokens from which operands were taken. -/
theorem operands_run (tokens : List PlacedToken) :
    ∃ run, tokens = run ++ (Parse.operands tokens).2 ∧ (∀ operand ∈ run, operand.token.isTerm) ∧
      run.length = (Parse.operands tokens).1.length := by
  induction tokens with
  | nil => exact ⟨[], rfl, by simp, rfl⟩
  | cons placed rest inductionHypothesis =>
      cases read : Parse.term? placed with
      | none => exact ⟨[], by simp [Parse.operands, read]⟩
      | some expr =>
          obtain ⟨run, same, terms, count⟩ := inductionHypothesis
          have isTerm : placed.token.isTerm := by
            rw [← isSome_term?, read, Option.isSome_some]
          refine ⟨placed :: run, ?_, List.forall_mem_cons.mpr ⟨isTerm, terms⟩, ?_⟩
          · simp only [Parse.operands, read, List.cons_append, ← same]
          · simp only [Parse.operands, read, List.length_cons, count]

/-- A run of terms is taken as a whole, together with the operands behind it. -/
theorem operands_run_append
    {run : List PlacedToken}
    (terms : ∀ operand ∈ run, operand.token.isTerm)
    (tokens : List PlacedToken) :
    (Parse.operands (run ++ tokens)).1.length = run.length + (Parse.operands tokens).1.length ∧
    (Parse.operands (run ++ tokens)).2 = (Parse.operands tokens).2 := by
  induction run with
  | nil => simp
  | cons placed rest inductionHypothesis =>
      obtain ⟨count, left⟩ := inductionHypothesis fun operand member =>
        terms operand (List.mem_cons_of_mem placed member)
      have readable : (Parse.term? placed).isSome := by
        rw [isSome_term?]
        exact terms placed List.mem_cons_self
      obtain ⟨expr, read⟩ := Option.isSome_iff_exists.mp readable
      simp only [List.cons_append, Parse.operands, read, List.length_cons]
      exact ⟨by omega, left⟩

/-- A run of terms can be filled up to any greater length. -/
theorem exists_fill
    {run : List PlacedToken}
    (terms : ∀ operand ∈ run, operand.token.isTerm)
    {count : Nat}
    (bound : run.length ≤ count) :
    ∃ fill, (Parse.operands (run ++ fill)).1.length = count ∧
      (Parse.operands (run ++ fill)).2 = [] := by
  let fill := List.replicate (count - run.length) (⟨.number (.integer 0), 0⟩ : PlacedToken)
  have fillTerms : ∀ operand ∈ fill, operand.token.isTerm := by
    intro operand member
    rw [List.eq_of_mem_replicate member]
    rfl
  have fillRun := operands_run_append fillTerms []
  have wholeRun := operands_run_append terms fill
  rw [List.append_nil] at fillRun
  refine ⟨fill, ?_, ?_⟩
  · rw [wholeRun.1, fillRun.1]
    simp only [fill, List.length_replicate, Parse.operands, List.length_nil]
    omega
  · rw [wholeRun.2, fillRun.2]
    rfl

/-! ### Tokens that await an expression -/

/-- Behind these tokens a statement goes on with its expression. -/
structure AwaitsExpression
    (head : List PlacedToken)
    (line : Nat)
    (build : Expr → Statement) : Prop where
  nonempty : head ≠ []
  continues : ∀ following,
    Parse.statement (head ++ following) = (Parse.expression line following).map build

namespace AwaitsExpression

variable {head : List PlacedToken} {line : Nat} {build : Expr → Statement}

private theorem program_eq_error
    (awaits : AwaitsExpression head line build)
    {following left : List PlacedToken}
    {error : GrammarError}
    (failed : Parse.expression line following = (.error error, left)) :
    Parse.program (head ++ following) = .error error := by
  apply program_of_statement_error (by simp [awaits.nonempty])
  rw [awaits.continues, failed]
  rfl

private theorem program_eq_ok
    (awaits : AwaitsExpression head line build)
    {following : List PlacedToken}
    {expr : Expr}
    (read : Parse.expression line following = (.ok expr, [])) :
    Parse.program (head ++ following) = .ok [build expr] := by
  have readStatement : Parse.statement (head ++ following) = (.ok (build expr), []) := by
    rw [awaits.continues, read]
    rfl
  rw [program_of_statement readStatement, program_nil]
  rfl

private theorem program_term
    (awaits : AwaitsExpression head line build)
    (term : PlacedToken)
    (isTerm : term.token.isTerm) :
    ∃ program, Parse.program (head ++ [term]) = .ok program := by
  obtain ⟨token, termLine⟩ := term
  cases token with
  | number value => exact ⟨_, awaits.program_eq_ok rfl⟩
  | identifier name => exact ⟨_, awaits.program_eq_ok rfl⟩
  | operator operator => cases isTerm
  | var | print | assign | newline | blank => cases isTerm

private theorem extensible (awaits : AwaitsExpression head line build) : Extensible head :=
  ⟨_, awaits.program_term ⟨.number (.integer 0), 0⟩ rfl⟩

private theorem program_of_refused
    (awaits : AwaitsExpression head line build)
    {operator : Operator}
    (operatorLine : Nat)
    {following : List PlacedToken}
    (refused : ¬ operator.arity.accepts (Parse.operands following).1.length) :
    Parse.program (head ++ ⟨.operator operator, operatorLine⟩ :: following) =
      .error (.arityViolation operator operator.arity (Parse.operands following).1.length
        operatorLine) := by
  apply awaits.program_eq_error
  rw [expression_operator, operation_of_not_accepts operator operatorLine refused]

private theorem program_of_accepted
    (awaits : AwaitsExpression head line build)
    {operator : Operator}
    (operatorLine : Nat)
    {following : List PlacedToken}
    (accepted : operator.arity.accepts (Parse.operands following).1.length)
    (nothingLeft : (Parse.operands following).2 = []) :
    ∃ program,
      Parse.program (head ++ ⟨.operator operator, operatorLine⟩ :: following) = .ok program := by
  refine ⟨[build (.operation operator (Parse.operands following).1 operatorLine)], ?_⟩
  apply awaits.program_eq_ok
  rw [expression_operator, operation_of_accepts operator operatorLine accepted, nothingLeft]

/-- Tokens that end with a refused run of operands can go on exactly when operands are missing. -/
theorem extensible_run_iff
    (awaits : AwaitsExpression head line build)
    (operator : Operator)
    (operatorLine : Nat)
    {run : List PlacedToken}
    (terms : ∀ operand ∈ run, operand.token.isTerm)
    (refused : ¬ operator.arity.accepts run.length) :
    Extensible (head ++ ⟨.operator operator, operatorLine⟩ :: run) ↔
      run.length < operator.arity.count := by
  constructor
  · rintro ⟨more, program, accepted⟩
    rw [List.append_assoc, List.cons_append] at accepted
    -- Were there enough operands, no longer run would be accepted either.
    by_contra enough
    have refusedMore : ¬ operator.arity.accepts (Parse.operands (run ++ more)).1.length := by
      intro acceptedMore
      rw [(operands_run_append terms more).1] at acceptedMore
      exact enough (Arity.lt_count_of_accepts_add refused acceptedMore)
    rw [awaits.program_of_refused operatorLine refusedMore] at accepted
    cases accepted
  · intro missing
    obtain ⟨fill, count, nothingLeft⟩ := exists_fill terms missing.le
    obtain ⟨program, accepted⟩ := awaits.program_of_accepted operatorLine
      (by rw [count]; exact operator.arity.accepts_count) nothingLeft
    refine ⟨fill, program, ?_⟩
    rw [List.append_assoc, List.cons_append]
    exact accepted

private theorem miscounts_of_refused
    (awaits : AwaitsExpression head line build)
    (operator : Operator)
    (operatorLine : Nat)
    {following : List PlacedToken}
    (refused : ¬ operator.arity.accepts (Parse.operands following).1.length) :
    Miscounts (head ++ ⟨.operator operator, operatorLine⟩ :: following)
      (.arityViolation operator operator.arity (Parse.operands following).1.length operatorLine)
      operator (Parse.operands following).1.length operatorLine := by
  obtain ⟨run, same, terms, count⟩ := operands_run following
  have stops := (operands_written following).2.2
  refine ⟨head, run, (Parse.operands following).2, by rw [← same], awaits.program_term, terms,
    count, ?_⟩
  cases after : (Parse.operands following).2 with
  | cons next rest =>
      rw [after] at same stops
      refine .inl ⟨next, rest, rfl, by simpa [startsWithTerm] using stops, ?_⟩
      intro more
      -- The run has ended, so it stays the same whatever else follows.
      have sameCount : (Parse.operands (following ++ more)).1.length =
          (Parse.operands following).1.length := by
        have noOperand : Parse.operands (next :: rest ++ more) = ([], next :: rest ++ more) :=
          operands_of_not_startsWithTerm (by rwa [startsWithTerm_append (by simp)])
        rw [← count, same, List.append_assoc, (operands_run_append terms _).1, noOperand]
        rfl
      rw [List.append_assoc, List.cons_append, ← sameCount]
      rw [← sameCount] at refused
      exact awaits.program_of_refused operatorLine refused
  | nil =>
      rw [after, List.append_nil] at same
      subst same
      rw [← count] at refused ⊢
      exact .inr ⟨rfl, awaits.extensible_run_iff operator operatorLine terms refused⟩

private theorem diagnosed
    (awaits : AwaitsExpression head line build)
    {following left : List PlacedToken}
    {error : GrammarError}
    (failed : Parse.expression line following = (.error error, left)) :
    Diagnosed (head ++ following) error := by
  rcases expression_cases line following with
    ⟨rfl, outcome⟩ | ⟨operator, operatorLine, rest, rfl, outcome⟩ |
    ⟨placed, found, rest, rfl, readTerm, outcome⟩ | ⟨placed, rest, rfl, noTerm, noOperator, outcome⟩
  · obtain ⟨rfl, -⟩ := by simpa [outcome] using failed
    rw [List.append_nil]
    exact awaits.extensible
  · by_cases accepted : operator.arity.accepts (Parse.operands rest).1.length
    · rw [outcome, operation_of_accepts _ _ accepted] at failed
      simp at failed
    · rw [outcome, operation_of_not_accepts _ _ accepted] at failed
      obtain ⟨rfl, -⟩ := by simpa using failed
      exact ⟨rfl, awaits.miscounts_of_refused operator operatorLine accepted⟩
  · simp [outcome] at failed
  · obtain ⟨rfl, -⟩ := by simpa [outcome] using failed
    refine ⟨⟨_, rfl⟩, head, rest, rfl, awaits.extensible, ?_⟩
    intro more
    rw [List.append_assoc]
    exact awaits.program_eq_error (expression_of_other noTerm noOperator line more)

end AwaitsExpression

/-! ### Tokens that await an equals sign -/

/-- Behind these tokens a statement goes on with an equals sign and its expression. -/
structure AwaitsDefinition
    (head : List PlacedToken)
    (name : String)
    (line : Nat)
    (build : Expr → Statement) : Prop where
  nonempty : head ≠ []
  continues : ∀ following,
    Parse.statement (head ++ following) = (Parse.definition name line following).map build

namespace AwaitsDefinition

variable {head : List PlacedToken} {name : String} {line : Nat} {build : Expr → Statement}

private theorem awaitsExpression
    (awaits : AwaitsDefinition head name line build)
    (assignLine : Nat) :
    AwaitsExpression (head ++ [⟨.assign, assignLine⟩]) line build where
  nonempty := by simp
  continues := by
    intro following
    rw [List.append_assoc, awaits.continues]
    rfl

private theorem extensible (awaits : AwaitsDefinition head name line build) : Extensible head :=
  (awaits.awaitsExpression 0).extensible.of_append

private theorem diagnosed
    (awaits : AwaitsDefinition head name line build)
    {following left : List PlacedToken}
    {error : GrammarError}
    (failed : Parse.definition name line following = (.error error, left)) :
    Diagnosed (head ++ following) error := by
  cases following with
  | nil =>
      obtain ⟨rfl, -⟩ := by simpa [Parse.definition] using failed
      rw [List.append_nil]
      exact awaits.extensible
  | cons placed rest =>
      by_cases isAssign : placed.token = .assign
      · obtain ⟨token, assignLine⟩ := placed
        obtain rfl : token = .assign := isAssign
        rw [List.append_cons]
        exact (awaits.awaitsExpression assignLine).diagnosed failed
      · have refused : ∀ more, Parse.definition name line (placed :: more) =
            (.error (.expectedAssign name placed.token placed.line), more) := by
          intro more
          exact Parse.definition.eq_2 name line placed.token placed.line more isAssign
        rw [refused rest] at failed
        obtain ⟨rfl, -⟩ := by simpa using failed
        refine ⟨⟨_, rfl⟩, head, rest, rfl, awaits.extensible, ?_⟩
        intro more
        apply program_of_statement_error (by simp)
        rw [List.append_assoc, awaits.continues, List.singleton_append, refused more]
        rfl

end AwaitsDefinition

/-! ### Every error is diagnosed -/

theorem Parsed.map_eq_error
    {α β : Type}
    {convert : α → β}
    {parsed : Parse.Parsed α}
    {error : GrammarError}
    {left : List PlacedToken}
    (failed : parsed.map convert = (.error error, left)) :
    parsed = (.error error, left) := by
  obtain ⟨outcome, rest⟩ := parsed
  cases outcome with
  | error found => simpa [Parse.Parsed.map, Except.map] using failed
  | ok value => simp [Parse.Parsed.map, Except.map] at failed

private theorem awaitsDefinition_declaration (name : String) (line nameLine : Nat) :
    AwaitsDefinition [⟨.var, line⟩, ⟨.identifier name, nameLine⟩] name line
      (.declare name · line) where
  nonempty := by simp
  continues := fun _ => rfl

private theorem awaitsDefinition_assignment (name : String) (line : Nat) :
    AwaitsDefinition [⟨.identifier name, line⟩] name line (.assign name · line) where
  nonempty := by simp
  continues := fun _ => rfl

private theorem awaitsExpression_print (line : Nat) :
    AwaitsExpression [⟨.print, line⟩] line (.print · line) where
  nonempty := by simp
  continues := fun _ => rfl

private theorem extensible_declaration (line : Nat) : Extensible [⟨.var, line⟩] :=
  (awaitsDefinition_declaration "x" line line).extensible.of_append

theorem statement_of_other
    {token : Token}
    (noVar : token ≠ .var)
    (noPrint : token ≠ .print)
    (noName : ∀ name, token ≠ .identifier name)
    (line : Nat)
    (following : List PlacedToken) :
    Parse.statement (⟨token, line⟩ :: following) =
      (.error (.unexpectedToken token line), ⟨token, line⟩ :: following) := by
  cases token with
  | var => exact absurd rfl noVar
  | print => exact absurd rfl noPrint
  | identifier name => exact absurd rfl (noName name)
  | number value | operator operator | assign | newline | blank => rfl

/-- Whatever the reader has against a statement, the diagnosis holds of its tokens. -/
theorem diagnosed_of_statement_error
    {tokens left : List PlacedToken}
    {error : GrammarError}
    (nonempty : tokens ≠ [])
    (failed : Parse.statement tokens = (.error error, left)) :
    Diagnosed tokens error := by
  fun_cases Parse.statement tokens with
  | case1 line name nameLine following =>
      exact (awaitsDefinition_declaration name line nameLine).diagnosed (Parsed.map_eq_error failed)
  | case2 line found foundLine following noName =>
      obtain ⟨rfl, -⟩ := by simpa [Parse.statement, noName] using failed
      refine ⟨⟨_, rfl⟩, [⟨.var, line⟩], following, rfl, extensible_declaration line, ?_⟩
      intro more
      apply program_of_statement_error (by simp)
      exact Parse.statement.eq_2 line found foundLine more noName
  | case3 line =>
      obtain ⟨rfl, -⟩ := by simpa [Parse.statement] using failed
      exact extensible_declaration line
  | case4 line following =>
      exact (awaitsExpression_print line).diagnosed (Parsed.map_eq_error failed)
  | case5 name line following =>
      exact (awaitsDefinition_assignment name line).diagnosed (Parsed.map_eq_error failed)
  | case6 token line following noDeclaration noFound noEnd noPrint noName =>
      have noVar : token ≠ .var := by
        cases following with
        | nil => exact noEnd rfl
        | cons found rest => exact noFound found.token found.line rest rfl
      rw [statement_of_other noVar noPrint noName] at failed
      obtain ⟨rfl, -⟩ := by simpa using failed
      refine ⟨⟨_, rfl⟩, [], following, rfl, ⟨[], [], program_nil⟩, ?_⟩
      intro more
      exact program_of_statement_error (by simp) (statement_of_other noVar noPrint noName line more)
  | case7 => exact absurd rfl nonempty

/-- **Errors point at the first token that cannot be continued.**  Whenever tokens are no program,
the error that is reported is diagnosed. -/
theorem diagnosed_of_program_error
    {tokens : List PlacedToken}
    {error : GrammarError}
    (failed : Parse.program tokens = .error error) :
    Diagnosed tokens error := by
  -- Statement by statement: either the first one fails, or it is complete and the error is about
  -- what stands behind it.
  induction tokens using Parse.program.induct with
  | case1 tokens empty =>
      rw [List.isEmpty_iff.mp empty, program_nil] at failed
      cases failed
  | case2 tokens nonempty found left outcome =>
      rw [List.isEmpty_iff] at nonempty
      rw [program_of_statement_error nonempty outcome] at failed
      cases failed
      exact diagnosed_of_statement_error nonempty outcome
  | case3 tokens nonempty first rest read inductionHypothesis =>
      obtain ⟨front, rfl, complete, mayFollow⟩ := complete_of_statement read
      rw [complete.program_append mayFollow] at failed
      have failedRest : Parse.program rest = .error error := by
        cases later : Parse.program rest <;> simp_all [Except.map]
      have restNonempty : rest ≠ [] := by
        rintro rfl
        rw [program_nil] at failedRest
        cases failedRest
      exact complete.diagnosed_append restNonempty mayFollow (inductionHypothesis failedRest)

theorem diagnosed_of_program_error_power :
    Parse.program
        [⟨.print, 1⟩, ⟨.number (.integer 1), 1⟩, ⟨.identifier "x", 2⟩, ⟨.assign, 2⟩,
          ⟨.operator (.fold .pow), 3⟩, ⟨.number (.integer 2), 3⟩, ⟨.var, 4⟩] =
      .error (.arityViolation (.fold .pow) (.exact 2) 1 3) ∧
    Diagnosed
      [⟨.print, 1⟩, ⟨.number (.integer 1), 1⟩, ⟨.identifier "x", 2⟩, ⟨.assign, 2⟩,
        ⟨.operator (.fold .pow), 3⟩, ⟨.number (.integer 2), 3⟩, ⟨.var, 4⟩]
      (.arityViolation (.fold .pow) (.exact 2) 1 3) := by
  have failed : Parse.program
        [⟨.print, 1⟩, ⟨.number (.integer 1), 1⟩, ⟨.identifier "x", 2⟩, ⟨.assign, 2⟩,
          ⟨.operator (.fold .pow), 3⟩, ⟨.number (.integer 2), 3⟩, ⟨.var, 4⟩] =
      .error (.arityViolation (.fold .pow) (.exact 2) 1 3) := by
    decide +kernel
  exact ⟨failed, diagnosed_of_program_error failed⟩

end Grammar

end Reckoner
