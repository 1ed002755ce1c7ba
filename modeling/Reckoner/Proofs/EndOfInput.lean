import Reckoner.Proofs.Concatenation
import Reckoner.Proofs.SourceLines

/-!
Contract: the line that is named when the tokens end too early.

A missing token is reported only where the tokens end within the opening of a statement, after
complete statements.  The line named is that of the first token of this opening, wherever its other
tokens stand.  So it is the line where the tokens end as long as the unfinished statement stands on
one line, and an earlier one otherwise.

Owns: unfinished statements, and the exact condition for the error about missing tokens.

Does not own: missing operands, which are an error about the operator.
-/

namespace Reckoner

namespace Grammar

/-! ### Unfinished statements -/

/-- The tokens are the start of a statement, or all that stands before its expression. -/
def CutShort (tokens : List PlacedToken) : Prop :=
  ∃ statement : Statement, tokens.map PlacedToken.token <+: statement.opening

/-- The tokens end with an unfinished statement, of which `first` is the first token. -/
structure EndsWithin
    (tokens : List PlacedToken)
    (first : PlacedToken)
    (following : List PlacedToken) : Prop where
  cutShort : CutShort (first :: following)
  behindProgram : ∃ read program,
    tokens = read ++ first :: following ∧ Parse.program read = .ok program ∧
    ∀ last ∈ program.getLast?, MayFollow last (first :: following)

/-! ### Missing tokens -/

/-- An expression misses its tokens only if there is none at all. -/
theorem expression_eq_unexpectedEnd_iff
    {line found : Nat}
    {tokens left : List PlacedToken} :
    Parse.expression line tokens = (.error (.unexpectedEnd found), left) ↔
      tokens = [] ∧ line = found ∧ left = [] := by
  constructor
  · intro failed
    rcases expression_cases line tokens with
      ⟨rfl, outcome⟩ | ⟨operator, operatorLine, rest, rfl, outcome⟩ |
      ⟨placed, term, rest, rfl, readTerm, outcome⟩ |
      ⟨placed, rest, rfl, noTerm, noOperator, outcome⟩
    · cases outcome.symm.trans failed
      exact ⟨rfl, rfl, rfl⟩
    · by_cases accepted : operator.arity.accepts (Parse.operands rest).1.length
      · cases (outcome.symm.trans failed).symm.trans (operation_of_accepts _ _ accepted)
      · cases (outcome.symm.trans failed).symm.trans (operation_of_not_accepts _ _ accepted)
    · cases outcome.symm.trans failed
    · cases outcome.symm.trans failed
  · rintro ⟨rfl, rfl, rfl⟩
    rfl

/-- A definition is cut short before its equals sign or right behind it. -/
theorem definition_eq_unexpectedEnd_iff
    {name : String}
    {line found : Nat}
    {tokens left : List PlacedToken} :
    Parse.definition name line tokens = (.error (.unexpectedEnd found), left) ↔
      tokens.map PlacedToken.token <+: [.assign] ∧ line = found ∧ left = [] := by
  fun_cases Parse.definition name line tokens with
  | case1 assignLine rest =>
      rw [expression_eq_unexpectedEnd_iff, List.map_cons, List.cons_prefix_cons,
        List.prefix_nil, List.map_eq_nil_iff, eq_self, true_and]
  | case2 token tokenLine rest noAssign =>
      have noPrefix : ¬ token = .assign := noAssign
      simp [List.cons_prefix_cons, noPrefix]
  | case3 => simp [eq_comm]

private theorem Parsed.map_eq_error_iff
    {α β : Type}
    {convert : α → β}
    {parsed : Parse.Parsed α}
    {error : GrammarError}
    {left : List PlacedToken} :
    parsed.map convert = (.error error, left) ↔ parsed = (.error error, left) := by
  constructor
  · exact Parsed.map_eq_error
  · rintro rfl
    rfl

private theorem cutShort_cons_iff (first : PlacedToken) (following : List PlacedToken) :
    CutShort (first :: following) ↔
      (first.token = .var ∧
        ∃ name, following.map PlacedToken.token <+: [.identifier name, .assign]) ∨
      ((∃ name, first.token = .identifier name) ∧
        following.map PlacedToken.token <+: [.assign]) ∨
      (first.token = .print ∧ following = []) := by
  constructor
  · rintro ⟨statement, opening⟩
    rw [List.map_cons] at opening
    cases statement with
    | declare name expr line =>
        obtain ⟨isFirst, others⟩ := List.cons_prefix_cons.mp opening
        exact .inl ⟨isFirst, name, others⟩
    | assign name expr line =>
        obtain ⟨isFirst, others⟩ := List.cons_prefix_cons.mp opening
        exact .inr (.inl ⟨⟨name, isFirst⟩, others⟩)
    | print expr line =>
        obtain ⟨isFirst, others⟩ := List.cons_prefix_cons.mp opening
        exact .inr (.inr ⟨isFirst, List.map_eq_nil_iff.mp (List.prefix_nil.mp others)⟩)
  · rintro (⟨isFirst, name, others⟩ | ⟨⟨name, isFirst⟩, others⟩ | ⟨isFirst, rfl⟩)
    · exact ⟨.declare name (.number (.integer 0) 0) 0, List.cons_prefix_cons.mpr ⟨isFirst, others⟩⟩
    · exact ⟨.assign name (.number (.integer 0) 0) 0, List.cons_prefix_cons.mpr ⟨isFirst, others⟩⟩
    · exact ⟨.print (.number (.integer 0) 0) 0,
        List.cons_prefix_cons.mpr ⟨isFirst, List.nil_prefix⟩⟩

/-- The line that is named is that of the token which opens the statement. -/
theorem statement_eq_unexpectedEnd_iff
    {first : PlacedToken}
    {following left : List PlacedToken}
    {line : Nat} :
    Parse.statement (first :: following) = (.error (.unexpectedEnd line), left) ↔
      CutShort (first :: following) ∧ first.line = line ∧ left = [] := by
  obtain ⟨token, tokenLine⟩ := first
  rw [cutShort_cons_iff]
  cases token with
  | var =>
      cases following with
      | nil => simp [Parse.statement, eq_comm]
      | cons second rest =>
          obtain ⟨second, secondLine⟩ := second
          by_cases isName : ∃ name, second = .identifier name
          · obtain ⟨name, rfl⟩ := isName
            simp [Parse.statement, Parsed.map_eq_error_iff, definition_eq_unexpectedEnd_iff,
              List.cons_prefix_cons]
          · rw [not_exists] at isName
            simp [Parse.statement, isName, List.cons_prefix_cons]
  | print =>
      simp [Parse.statement, Parsed.map_eq_error_iff, expression_eq_unexpectedEnd_iff]
  | identifier name =>
      simp [Parse.statement, Parsed.map_eq_error_iff, definition_eq_unexpectedEnd_iff]
  | number value | operator operator | assign | newline | blank => simp [Parse.statement]

/-- An unfinished statement stays the end of the tokens when a complete statement is put before
them. -/
theorem EndsWithin.behind
    {statement : Statement}
    {front tokens following : List PlacedToken}
    {first : PlacedToken}
    (complete : Complete statement front)
    (mayFollow : MayFollow statement tokens)
    (within : EndsWithin tokens first following) :
    EndsWithin (front ++ tokens) first following := by
  obtain ⟨read, program, rfl, isRead, lastMayFollow⟩ := within.behindProgram
  have readBehind : MayFollow statement read := by
    by_cases empty : read = []
    · rw [empty]
      exact .nil statement
    · exact mayFollow.of_append empty
  refine ⟨within.cutShort, front ++ read, statement :: program, by rw [List.append_assoc], ?_, ?_⟩
  · rw [complete.program_append readBehind, isRead]
    rfl
  · intro last isLast
    cases program with
    | nil =>
        obtain rfl : statement = last := Option.some.inj isLast
        rw [(program_eq_ok_nil_iff read).mp isRead] at mayFollow
        exact mayFollow
    | cons second others => exact lastMayFollow last isLast

/-- The error about missing tokens is reported for an unfinished statement, and for nothing else. -/
theorem program_eq_unexpectedEnd_iff (tokens : List PlacedToken) (line : Nat) :
    Parse.program tokens = .error (.unexpectedEnd line) ↔
      ∃ first following, EndsWithin tokens first following ∧ first.line = line := by
  constructor
  · intro failed
    induction tokens using Parse.program.induct with
    | case1 tokens empty =>
        rw [List.isEmpty_iff.mp empty, program_nil] at failed
        cases failed
    | case2 tokens nonempty found left outcome =>
        obtain ⟨first, following, rfl⟩ := List.exists_cons_of_ne_nil (by simpa using nonempty)
        rw [program_of_statement_error (by simp) outcome] at failed
        cases failed
        obtain ⟨cutShort, onLine, -⟩ := statement_eq_unexpectedEnd_iff.mp outcome
        exact ⟨first, following, ⟨cutShort, [], [], rfl, program_nil, by simp⟩, onLine⟩
    | case3 tokens nonempty statement rest read inductionHypothesis =>
        obtain ⟨front, rfl, complete, mayFollow⟩ := complete_of_statement read
        obtain ⟨first, following, within, onLine⟩ :=
          inductionHypothesis (complete.program_eq_error_of_append mayFollow failed)
        exact ⟨first, following, within.behind complete mayFollow, onLine⟩
  · rintro ⟨first, following, within, rfl⟩
    obtain ⟨read, program, rfl, isRead, mayFollow⟩ := within.behindProgram
    have unfinished : Parse.program (first :: following) = .error (.unexpectedEnd first.line) :=
      program_of_statement_error (by simp)
        (statement_eq_unexpectedEnd_iff.mpr ⟨within.cutShort, rfl, rfl⟩)
    rw [program_append isRead mayFollow, unfinished]
    rfl

/-! ### The line where the tokens end -/

private theorem EndsWithin.getLast?_eq
    {tokens following : List PlacedToken}
    {first : PlacedToken}
    (within : EndsWithin tokens first following) :
    tokens.getLast? = (first :: following).getLast? := by
  obtain ⟨read, program, rfl, -, -⟩ := within.behindProgram
  exact List.getLast?_append_of_ne_nil _ (by simp)

/-- Among tokens in the order of their lines, an unfinished statement lies between the line of its
first token and the line where the tokens end. -/
theorem EndsWithin.line_bounds
    {tokens following : List PlacedToken}
    {first last placed : PlacedToken}
    (within : EndsWithin tokens first following)
    (isLast : tokens.getLast? = some last)
    (sorted : (tokens.map PlacedToken.line).Pairwise (· ≤ ·))
    (member : placed ∈ first :: following) :
    first.line ≤ placed.line ∧ placed.line ≤ last.line := by
  rw [within.getLast?_eq, List.getLast?_eq_some_getLast (List.cons_ne_nil _ _)] at isLast
  obtain ⟨read, program, rfl, -, -⟩ := within.behindProgram
  have sortedStatement : (first :: following).Pairwise fun earlier later =>
      earlier.line ≤ later.line :=
    (List.pairwise_map.mp sorted).sublist (List.sublist_append_right read _)
  refine ⟨sortedStatement.rel_head_of_rel_head_head member (Nat.le_refl _), ?_⟩
  rw [← Option.some.inj isLast]
  exact sortedStatement.rel_getLast_of_rel_getLast_getLast member (Nat.le_refl _)

/-- **Missing tokens are reported for the line on which the unfinished statement starts.**  The
error is reported exactly when the tokens end within a statement.  It names the line of the last
token exactly when this is the line of the first token of the statement.  For tokens in the order of
their lines, the line named is never behind the last one, and it is the last one exactly when the
unfinished statement stands on one line. -/
theorem unexpectedEnd_names_opening_line (tokens : List PlacedToken) :
    (∀ line,
      Parse.program tokens = .error (.unexpectedEnd line) ↔
        ∃ first following, EndsWithin tokens first following ∧ first.line = line) ∧
    ∀ first following, EndsWithin tokens first following →
      ∃ last,
        tokens.getLast? = some last ∧
        (Parse.program tokens = .error (.unexpectedEnd last.line) ↔ last.line = first.line) ∧
        ((tokens.map PlacedToken.line).Pairwise (· ≤ ·) →
          first.line ≤ last.line ∧
          (last.line = first.line ↔ ∀ placed ∈ following, placed.line = first.line)) := by
  refine ⟨program_eq_unexpectedEnd_iff tokens, ?_⟩
  intro first following within
  have reported : Parse.program tokens = .error (.unexpectedEnd first.line) :=
    (program_eq_unexpectedEnd_iff tokens first.line).mpr ⟨first, following, within, rfl⟩
  let last := (first :: following).getLast (List.cons_ne_nil _ _)
  have isLast : tokens.getLast? = some last := by
    rw [within.getLast?_eq]
    exact List.getLast?_eq_some_getLast _
  have lastMember : last ∈ first :: following := List.getLast_mem _
  refine ⟨last, isLast, ?_, ?_⟩
  · rw [reported, Except.error.injEq, GrammarError.unexpectedEnd.injEq, eq_comm]
  · intro sorted
    refine ⟨(within.line_bounds isLast sorted lastMember).1, ?_, ?_⟩
    · intro sameLine placed member
      have bounds := within.line_bounds isLast sorted (List.mem_cons_of_mem first member)
      omega
    · intro oneLine
      rcases List.mem_cons.mp lastMember with isFirst | isFollowing
      · rw [isFirst]
      · exact oneLine last isFollowing

/-- The declaration is broken before its equals sign. -/
theorem unexpectedEnd_names_opening_line_broken :
    let tokens : List PlacedToken :=
      [⟨.print, 1⟩, ⟨.number (.integer 1), 1⟩, ⟨.var, 2⟩, ⟨.identifier "x", 2⟩, ⟨.assign, 3⟩]
    EndsWithin tokens ⟨.var, 2⟩ [⟨.identifier "x", 2⟩, ⟨.assign, 3⟩] ∧
    Parse.program tokens = .error (.unexpectedEnd 2) ∧
    Parse.program tokens ≠ .error (.unexpectedEnd 3) := by
  intro tokens
  have within : EndsWithin tokens ⟨.var, 2⟩ [⟨.identifier "x", 2⟩, ⟨.assign, 3⟩] := by
    refine ⟨⟨.declare "x" (.number (.integer 0) 0) 0, List.prefix_rfl⟩,
      [⟨.print, 1⟩, ⟨.number (.integer 1), 1⟩], [.print (.number (.integer 1) 1) 1], rfl, ?_, ?_⟩
    · decide +kernel
    · intro last isLast
      obtain rfl : Statement.print (.number (.integer 1) 1) 1 = last := Option.some.inj isLast
      intro operation
      cases operation
  obtain ⟨reported, ending⟩ := unexpectedEnd_names_opening_line tokens
  obtain ⟨last, isLast, namesLast, -⟩ := ending _ _ within
  obtain rfl : (⟨.assign, 3⟩ : PlacedToken) = last := Option.some.inj isLast
  refine ⟨within, (reported 2).mpr ⟨_, _, within, rfl⟩, ?_⟩
  intro named
  exact absurd (namesLast.mp named) (by decide)

/-- The last token read is not what the error names: the name stands on line 2, behind the keyword
that the error names. -/
theorem unexpectedEnd_not_last_line :
    let tokens : List PlacedToken := [⟨.var, 1⟩, ⟨.identifier "x", 2⟩]
    Token.scan "VAR\nx" = .ok tokens ∧
    Parse.program tokens = .error (.unexpectedEnd 1) ∧
    ¬ ∀ (tokens : List PlacedToken) (line : Nat) (last : PlacedToken),
      Parse.program tokens = .error (.unexpectedEnd line) → tokens.getLast? = some last →
        line = last.line := by
  intro tokens
  have reported : Parse.program tokens = .error (.unexpectedEnd 1) := by decide +kernel
  refine ⟨by decide +kernel, reported, ?_⟩
  intro namesLast
  exact absurd (namesLast tokens 1 ⟨.identifier "x", 2⟩ reported rfl) (by decide)

end Grammar

end Reckoner
