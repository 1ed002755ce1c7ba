import Mathlib.Data.List.Chain
import Mathlib.Data.List.Forall2
import Reckoner.Program.Parse

/-!
Contract: the written form of programs, and that reading accepts exactly the written forms.

A program is written statement by statement.  Each token that is written is a slot; a slot also says
which line a node of the tree claims for it, because every node stands on the line of one token of
its own.  The equals sign and the name behind `VAR` are claimed by no node.

Reading takes operands as long as there are any.  So a written form is read back only when no
operation is followed by a term, and the one statement that starts with a term is the assignment.

Owns: slots, the written form of expressions, statements and programs, canonical programs, and for
each part of the reader the condition under which it succeeds.

Does not own: what the reader reports when it fails.
-/

namespace Reckoner

/-! ### Programs that a script can denote -/

namespace Expr

def isTerm : Expr → Bool
  | .number .. | .identifier .. => true
  | .group .. | .operation .. => false

def isOperation : Expr → Bool
  | .operation .. => true
  | .number .. | .identifier .. | .group .. => false

/-- Whether an expression is a term, or an operation on terms whose number the operator accepts. -/
def isFlat : Expr → Bool
  | .operation operator operands _ =>
      operands.all isTerm && operator.arity.accepts operands.length
  | expr => expr.isTerm

end Expr

namespace Statement

def value : Statement → Expr
  | .declare _ value _ | .assign _ value _ | .print value _ => value

def isAssignment : Statement → Bool
  | .assign .. => true
  | .declare .. | .print .. => false

end Statement

def Token.isTerm : Token → Bool
  | .number _ | .identifier _ => true
  | _ => false

def startsWithTerm (tokens : List PlacedToken) : Bool :=
  tokens.head?.any (·.token.isTerm)

namespace Grammar

/-- A program as a script can write it.  There is no group, an operation stands only as the whole
expression of a statement, its operands are terms in a number that its operator accepts, and no
assignment stands directly behind an operation. -/
structure Canonical (program : Program) : Prop where
  flat : ∀ statement ∈ program, statement.value.isFlat
  separated : program.IsChain fun first second =>
    first.value.isOperation → ¬ second.isAssignment

instance (program : Program) : Decidable (Canonical program) :=
  decidable_of_iff
    ((∀ statement ∈ program, statement.value.isFlat) ∧
      program.IsChain fun first second => first.value.isOperation → ¬ second.isAssignment)
    ⟨fun ⟨flat, separated⟩ => ⟨flat, separated⟩, fun ⟨flat, separated⟩ => ⟨flat, separated⟩⟩

theorem canonical_nil : Canonical [] :=
  ⟨by simp, .nil⟩

/-- Whether a program can be written depends on each statement and on its neighbour only. -/
theorem canonical_cons_iff (first : Statement) (rest : Program) :
    Canonical (first :: rest) ↔
      first.value.isFlat ∧
      (∀ next ∈ rest.head?, first.value.isOperation → ¬ next.isAssignment) ∧
      Canonical rest := by
  constructor
  · rintro ⟨flat, separated⟩
    obtain ⟨firstFlat, restFlat⟩ := List.forall_mem_cons.mp flat
    obtain ⟨allowed, restSeparated⟩ := List.isChain_cons.mp separated
    exact ⟨firstFlat, allowed, restFlat, restSeparated⟩
  · rintro ⟨firstFlat, allowed, restFlat, restSeparated⟩
    exact ⟨List.forall_mem_cons.mpr ⟨firstFlat, restFlat⟩,
      List.isChain_cons.mpr ⟨allowed, restSeparated⟩⟩

/-! ### Written forms -/

/-- A token of a written form, and the line that a node of the tree claims for it, if one does. -/
structure Slot where
  token : Token
  line? : Option Nat
deriving DecidableEq

mutual

def exprSlots : Expr → List Slot
  | .number value line => [⟨.number value, some line⟩]
  | .identifier name line => [⟨.identifier name, some line⟩]
  | .group inner _ => exprSlots inner
  | .operation operator operands line => ⟨.operator operator, some line⟩ :: operandSlots operands

/-- The written forms of operands, one after the other. -/
def operandSlots : List Expr → List Slot
  | [] => []
  | operand :: rest => exprSlots operand ++ operandSlots rest

end

def statementSlots : Statement → List Slot
  | .declare name value line =>
      ⟨.var, some line⟩ :: ⟨.identifier name, none⟩ :: ⟨.assign, none⟩ :: exprSlots value
  | .assign name value line =>
      ⟨.identifier name, some line⟩ :: ⟨.assign, none⟩ :: exprSlots value
  | .print value line => ⟨.print, some line⟩ :: exprSlots value

def programSlots (program : Program) : List Slot :=
  program.flatMap statementSlots

/-- A token stands on the line that its slot claims. -/
def OnClaimedLine (placed : PlacedToken) (slot : Slot) : Prop :=
  ∀ line ∈ slot.line?, placed.line = line

/-- A placed token fills a slot: it is the right token on the right line. -/
def Fills (placed : PlacedToken) (slot : Slot) : Prop :=
  placed.token = slot.token ∧ OnClaimedLine placed slot

/-- Tokens that fill slots in order and then go on with `rest`. -/
def Written : List Slot → List PlacedToken → List PlacedToken → Prop
  | [], tokens, rest => tokens = rest
  | slot :: slots, placed :: tokens, rest => Fills placed slot ∧ Written slots tokens rest
  | _ :: _, [], _ => False

@[simp]
private theorem written_nil (tokens rest : List PlacedToken) :
    Written [] tokens rest ↔ tokens = rest :=
  Iff.rfl

theorem written_cons (slot : Slot) (slots : List Slot) (tokens rest : List PlacedToken) :
    Written (slot :: slots) tokens rest ↔
      ∃ placed following,
        tokens = placed :: following ∧ Fills placed slot ∧ Written slots following rest := by
  cases tokens with
  | nil => simp [Written]
  | cons placed following => simp [Written]

/-- Written forms in sequence share the tokens between them. -/
theorem written_append (front back : List Slot) (tokens rest : List PlacedToken) :
    Written (front ++ back) tokens rest ↔
      ∃ middle, Written front tokens middle ∧ Written back middle rest := by
  induction front generalizing tokens with
  | nil => simp
  | cons slot slots inductionHypothesis =>
      cases tokens with
      | nil => simp [Written]
      | cons placed following => simp [Written, inductionHypothesis, and_assoc]

/-- Filling the slots with nothing left over splits into the tokens and their lines. -/
theorem written_all_iff (slots : List Slot) (tokens : List PlacedToken) :
    Written slots tokens [] ↔
      tokens.map PlacedToken.token = slots.map Slot.token ∧
      List.Forall₂ OnClaimedLine tokens slots := by
  induction slots generalizing tokens with
  | nil => simp
  | cons slot slots inductionHypothesis =>
      cases tokens with
      | nil => simp [Written]
      | cons placed following =>
          simp only [Written, Fills, inductionHypothesis, List.map_cons, List.cons.injEq,
            List.forall₂_cons]
          tauto

/-- A written form is still one when more tokens follow. -/
theorem written_append_right
    {slots : List Slot}
    {tokens rest : List PlacedToken}
    (written : Written slots tokens rest)
    (more : List PlacedToken) :
    Written slots (tokens ++ more) (rest ++ more) := by
  induction slots generalizing tokens with
  | nil => rw [written_nil] at written ⊢; rw [written]
  | cons slot slots inductionHypothesis =>
      obtain ⟨placed, following, rfl, fills, remaining⟩ := (written_cons _ _ _ _).mp written
      exact ⟨fills, inductionHypothesis remaining⟩

/-! ### What each part of the reader accepts -/

theorem isSome_term? (placed : PlacedToken) :
    (Parse.term? placed).isSome = placed.token.isTerm := by
  obtain ⟨token, line⟩ := placed
  cases token <;> rfl

/-- The written form of a term is the one token that the term is read from. -/
theorem written_term_iff
    {expr : Expr}
    (term : expr.isTerm)
    (slots : List Slot)
    (tokens rest : List PlacedToken) :
    Written (exprSlots expr ++ slots) tokens rest ↔
      ∃ placed following,
        tokens = placed :: following ∧ Parse.term? placed = some expr ∧
        Written slots following rest := by
  have fills_iff : ∀ placed, ∃ slot,
      exprSlots expr = [slot] ∧ (Fills placed slot ↔ Parse.term? placed = some expr) := by
    rintro ⟨token, line⟩
    cases expr with
    | number value exprLine =>
        refine ⟨_, rfl, ?_⟩
        cases token <;> simp [Fills, OnClaimedLine, Parse.term?]
    | identifier name exprLine =>
        refine ⟨_, rfl, ?_⟩
        cases token <;> simp [Fills, OnClaimedLine, Parse.term?]
    | group inner exprLine => simp [Expr.isTerm] at term
    | operation operator operands exprLine => simp [Expr.isTerm] at term
  cases tokens with
  | nil =>
      obtain ⟨slot, single, -⟩ := fills_iff ⟨.blank, 0⟩
      simp [single, Written]
  | cons placed following =>
      obtain ⟨slot, single, fills⟩ := fills_iff placed
      simp [single, Written, fills]

/-- What is read as a term is one. -/
theorem isTerm_of_term?
    {placed : PlacedToken}
    {expr : Expr}
    (read : Parse.term? placed = some expr) :
    expr.isTerm := by
  obtain ⟨token, line⟩ := placed
  cases token <;> simp [Parse.term?] at read <;> subst read <;> rfl

private theorem startsWithTerm_cons (placed : PlacedToken) (rest : List PlacedToken) :
    startsWithTerm (placed :: rest) = (Parse.term? placed).isSome := by
  rw [isSome_term?, startsWithTerm, List.head?_cons, Option.any_some]

/-- Nothing is taken where no term stands. -/
theorem operands_of_not_startsWithTerm
    {tokens : List PlacedToken}
    (stops : ¬ startsWithTerm tokens) :
    Parse.operands tokens = ([], tokens) := by
  cases tokens with
  | nil => rfl
  | cons placed rest =>
      rw [startsWithTerm_cons, Bool.not_eq_true, Option.isSome_eq_false_iff,
        Option.isNone_iff_eq_none] at stops
      rw [Parse.operands, stops]

/-- Operands that were taken are terms, they are written at the start of the tokens, and no further
term follows. -/
theorem operands_written (tokens : List PlacedToken) :
    (Parse.operands tokens).1.all Expr.isTerm ∧
    Written (operandSlots (Parse.operands tokens).1) tokens (Parse.operands tokens).2 ∧
    ¬ startsWithTerm (Parse.operands tokens).2 := by
  induction tokens with
  | nil => simp [Parse.operands, operandSlots, startsWithTerm]
  | cons placed rest inductionHypothesis =>
      obtain ⟨terms, written, stops⟩ := inductionHypothesis
      cases read : Parse.term? placed with
      | none => simp [Parse.operands, read, operandSlots, startsWithTerm_cons]
      | some expr =>
          have isTerm := isTerm_of_term? read
          simp only [Parse.operands, read, List.all_cons, isTerm, terms, Bool.and_self, true_and]
          refine ⟨?_, stops⟩
          exact (written_term_iff isTerm _ _ _).mpr ⟨placed, rest, rfl, read, written⟩

/-- The operands are the longest run of terms. -/
theorem operands_eq_iff (tokens rest : List PlacedToken) (exprs : List Expr) :
    Parse.operands tokens = (exprs, rest) ↔
      exprs.all Expr.isTerm ∧ Written (operandSlots exprs) tokens rest ∧
      ¬ startsWithTerm rest := by
  constructor
  · intro read
    have taken := operands_written tokens
    rwa [read] at taken
  · rintro ⟨terms, written, stops⟩
    induction exprs generalizing tokens with
    | nil =>
        rw [operandSlots, written_nil] at written
        rw [written]
        exact operands_of_not_startsWithTerm stops
    | cons expr exprs inductionHypothesis =>
        rw [List.all_cons, Bool.and_eq_true] at terms
        obtain ⟨placed, following, rfl, read, writtenRest⟩ :=
          (written_term_iff terms.1 _ _ _).mp written
        rw [Parse.operands, read, inductionHypothesis following terms.2 writtenRest]

theorem operation_of_accepts
    (operator : Operator)
    (line : Nat)
    {tokens : List PlacedToken}
    (accepted : operator.arity.accepts (Parse.operands tokens).1.length) :
    Parse.operation operator line tokens =
      (.ok (.operation operator (Parse.operands tokens).1 line), (Parse.operands tokens).2) := by
  simp [Parse.operation, accepted]

/-- The reader takes all the terms there are before it counts them. -/
theorem operation_of_not_accepts
    (operator : Operator)
    (line : Nat)
    {tokens : List PlacedToken}
    (refused : ¬ operator.arity.accepts (Parse.operands tokens).1.length) :
    Parse.operation operator line tokens =
      (.error (.arityViolation operator operator.arity (Parse.operands tokens).1.length line),
        (Parse.operands tokens).2) := by
  simp [Parse.operation, refused]

theorem expression_operator
    (line operatorLine : Nat)
    (operator : Operator)
    (following : List PlacedToken) :
    Parse.expression line (⟨.operator operator, operatorLine⟩ :: following) =
      Parse.operation operator operatorLine following := rfl

theorem expression_of_other
    {placed : PlacedToken}
    (noTerm : ¬ placed.token.isTerm)
    (noOperator : placed.token.operator? = none)
    (line : Nat)
    (following : List PlacedToken) :
    Parse.expression line (placed :: following) =
      (.error (.unexpectedTokenInTerm placed.token placed.line), following) := by
  obtain ⟨token, tokenLine⟩ := placed
  cases token with
  | operator operator => cases noOperator
  | number value => exact absurd rfl noTerm
  | identifier name => exact absurd rfl noTerm
  | var | print | assign | newline | blank => rfl

/-- What an expression is read from: nothing, an operator with its operands, a term, or a token that
starts no expression. -/
theorem expression_cases (line : Nat) (tokens : List PlacedToken) :
    (tokens = [] ∧ Parse.expression line tokens = (.error (.unexpectedEnd line), [])) ∨
    (∃ operator operatorLine following,
      tokens = ⟨.operator operator, operatorLine⟩ :: following ∧
      Parse.expression line tokens = Parse.operation operator operatorLine following) ∨
    (∃ placed expr following,
      tokens = placed :: following ∧ Parse.term? placed = some expr ∧
      Parse.expression line tokens = (.ok expr, following)) ∨
    (∃ placed following,
      tokens = placed :: following ∧ ¬ placed.token.isTerm ∧ placed.token.operator? = none ∧
      Parse.expression line tokens =
        (.error (.unexpectedTokenInTerm placed.token placed.line), following)) := by
  cases tokens with
  | nil => exact .inl ⟨rfl, rfl⟩
  | cons placed following =>
      obtain ⟨token, tokenLine⟩ := placed
      cases token with
      | operator operator => exact .inr (.inl ⟨operator, tokenLine, following, rfl, rfl⟩)
      | number value => exact .inr (.inr (.inl ⟨_, _, following, rfl, rfl, rfl⟩))
      | identifier name => exact .inr (.inr (.inl ⟨_, _, following, rfl, rfl, rfl⟩))
      | var | print | assign | newline | blank =>
          exact .inr (.inr (.inr ⟨_, following, rfl, Bool.false_ne_true, rfl, rfl⟩))

/-- Reading an expression yields the one that is written; behind an operation no term may stand. -/
theorem expression_eq_ok_iff
    (line : Nat)
    (tokens rest : List PlacedToken)
    (expr : Expr) :
    Parse.expression line tokens = (.ok expr, rest) ↔
      expr.isFlat ∧ Written (exprSlots expr) tokens rest ∧
      (expr.isOperation → ¬ startsWithTerm rest) := by
  constructor
  · intro read
    rcases expression_cases line tokens with
      ⟨-, outcome⟩ | ⟨operator, operatorLine, following, rfl, outcome⟩ |
      ⟨placed, found, following, rfl, readTerm, outcome⟩ | ⟨placed, following, -, -, -, outcome⟩
    · simp [outcome] at read
    · obtain ⟨terms, written, stops⟩ := operands_written following
      by_cases accepted : operator.arity.accepts (Parse.operands following).1.length
      · rw [outcome, operation_of_accepts _ _ accepted] at read
        obtain ⟨rfl, rfl⟩ := by simpa using read
        refine ⟨by simp [Expr.isFlat, terms, accepted], ?_, fun _ => stops⟩
        exact ⟨⟨rfl, by simp [OnClaimedLine]⟩, written⟩
      · rw [outcome, operation_of_not_accepts _ _ accepted] at read
        simp at read
    · have isTerm := isTerm_of_term? readTerm
      obtain ⟨rfl, rfl⟩ := by simpa [outcome] using read
      have written := (written_term_iff isTerm [] _ following).mpr
        ⟨placed, following, rfl, readTerm, rfl⟩
      rw [List.append_nil] at written
      refine ⟨?_, written, ?_⟩
      · cases found <;> simp_all [Expr.isFlat, Expr.isTerm]
      · cases found <;> simp_all [Expr.isOperation, Expr.isTerm]
    · simp [outcome] at read
  · rintro ⟨flat, written, stops⟩
    by_cases isTerm : expr.isTerm
    · rw [← List.append_nil (exprSlots expr), written_term_iff isTerm] at written
      obtain ⟨⟨token, tokenLine⟩, following, rfl, readTerm, rfl⟩ := written
      cases token <;> simp [Parse.term?] at readTerm <;> subst readTerm <;> rfl
    · cases expr with
      | number value exprLine => simp [Expr.isTerm] at isTerm
      | identifier name exprLine => simp [Expr.isTerm] at isTerm
      | group inner exprLine => simp [Expr.isFlat, Expr.isTerm] at flat
      | operation operator exprs exprLine =>
          rw [Expr.isFlat, Bool.and_eq_true] at flat
          obtain ⟨⟨token, tokenLine⟩, following, rfl, ⟨rfl, onLine⟩, writtenOperands⟩ :=
            (written_cons _ _ _ _).mp written
          obtain rfl : tokenLine = exprLine := onLine exprLine rfl
          have taken := (operands_eq_iff following rest exprs).mpr
            ⟨flat.1, writtenOperands, stops rfl⟩
          simp [Parse.expression, Parse.operation, taken, flat.2]

/-- A definition is read when an equals sign stands before the expression. -/
theorem definition_eq_ok_iff
    (name : String)
    (line : Nat)
    (tokens rest : List PlacedToken)
    (expr : Expr) :
    Parse.definition name line tokens = (.ok expr, rest) ↔
      expr.isFlat ∧ Written (⟨.assign, none⟩ :: exprSlots expr) tokens rest ∧
      (expr.isOperation → ¬ startsWithTerm rest) := by
  fun_cases Parse.definition name line tokens with
  | case1 assignLine following =>
      simp [expression_eq_ok_iff, Written, Fills, OnClaimedLine]
  | case2 found foundLine following noAssign =>
      refine iff_of_false (by simp) ?_
      rintro ⟨-, ⟨⟨isAssign, -⟩, -⟩, -⟩
      exact noAssign isAssign
  | case3 => simp [Written]

private theorem Parsed.map_eq_ok_iff
    {α β : Type}
    (convert : α → β)
    (parsed : Parse.Parsed α)
    (value : β)
    (rest : List PlacedToken) :
    parsed.map convert = (.ok value, rest) ↔
      ∃ read, parsed = (.ok read, rest) ∧ convert read = value := by
  obtain ⟨outcome, left⟩ := parsed
  cases outcome with
  | error error => simp [Parse.Parsed.map, Except.map]
  | ok read => simp [Parse.Parsed.map, Except.map, and_comm]

/-- Reading a statement yields the one that is written; behind an operation no term may stand. -/
theorem statement_eq_ok_iff (tokens rest : List PlacedToken) (read : Statement) :
    Parse.statement tokens = (.ok read, rest) ↔
      read.value.isFlat ∧ Written (statementSlots read) tokens rest ∧
      (read.value.isOperation → ¬ startsWithTerm rest) := by
  -- One case for each way in which a statement can start; the cases that end in an error remain to
  -- be refuted on the written side.
  fun_cases Parse.statement tokens with
  | case1 line name nameLine following =>
      rw [Parsed.map_eq_ok_iff]
      cases read with
      | declare readName value readLine =>
          simp only [definition_eq_ok_iff, statementSlots, Written, Fills, OnClaimedLine,
            Statement.value, Statement.declare.injEq, Token.identifier.injEq]
          aesop
      | assign readName value readLine => simp [statementSlots, Written, Fills]
      | print value readLine => simp [statementSlots, Written, Fills]
  | case2 line found foundLine following noName =>
      refine iff_of_false (by simp) ?_
      rintro ⟨-, written, -⟩
      cases read with
      | declare readName value readLine => exact noName readName written.2.1.1
      | assign readName value readLine => simp [statementSlots, Written, Fills] at written
      | print value readLine => simp [statementSlots, Written, Fills] at written
  | case3 line => cases read <;> simp [statementSlots, Written, Fills]
  | case4 line following =>
      rw [Parsed.map_eq_ok_iff]
      cases read with
      | declare readName value readLine => simp [statementSlots, Written, Fills]
      | assign readName value readLine => simp [statementSlots, Written, Fills]
      | print value readLine =>
          simp only [expression_eq_ok_iff, statementSlots, Written, Fills, OnClaimedLine,
            Statement.value, Statement.print.injEq]
          aesop
  | case5 name line following =>
      rw [Parsed.map_eq_ok_iff]
      cases read with
      | declare readName value readLine => simp [statementSlots, Written, Fills]
      | assign readName value readLine =>
          simp only [definition_eq_ok_iff, statementSlots, Written, Fills, OnClaimedLine,
            Statement.value, Statement.assign.injEq, Token.identifier.injEq]
          aesop
      | print value readLine => simp [statementSlots, Written, Fills]
  | case6 token line following noDeclaration noFound noEnd noPrint noName =>
      refine iff_of_false (by simp) ?_
      rintro ⟨-, written, -⟩
      cases read with
      | declare readName value readLine =>
          cases following with
          | nil => exact noEnd rfl written.1.1
          | cons found following => exact noFound _ _ _ rfl written.1.1
      | assign readName value readLine => exact noName readName written.1.1
      | print value readLine => exact noPrint written.1.1
  | case7 => cases read <;> simp [statementSlots, Written]

theorem program_nil : Parse.program [] = .ok [] := by
  rw [Parse.program]
  rfl

/-- The loop over statements, one round of it. -/
theorem program_cons (placed : PlacedToken) (tokens : List PlacedToken) :
    Parse.program (placed :: tokens) =
      match Parse.statement (placed :: tokens) with
      | (.error error, _) => .error error
      | (.ok first, rest) => (Parse.program rest).map (first :: ·) := by
  rw [Parse.program]
  simp only [List.isEmpty_cons, Bool.false_eq_true, ↓reduceIte]
  split <;> simp_all

/-- Programs are read statement by statement. -/
theorem program_of_statement
    {tokens rest : List PlacedToken}
    {first : Statement}
    (read : Parse.statement tokens = (.ok first, rest)) :
    Parse.program tokens = (Parse.program rest).map (first :: ·) := by
  cases tokens with
  | nil => simp [Parse.statement] at read
  | cons placed following => rw [program_cons, read]

theorem program_of_statement_error
    {tokens left : List PlacedToken}
    {error : GrammarError}
    (nonempty : tokens ≠ [])
    (failed : Parse.statement tokens = (.error error, left)) :
    Parse.program tokens = .error error := by
  cases tokens with
  | nil => exact absurd rfl nonempty
  | cons placed following => rw [program_cons, failed]

/-- The first statement is read off the tokens, and then the others off what it left. -/
theorem program_eq_ok_cons_iff (tokens : List PlacedToken) (first : Statement) (rest : Program) :
    Parse.program tokens = .ok (first :: rest) ↔
      ∃ left, Parse.statement tokens = (.ok first, left) ∧ Parse.program left = .ok rest := by
  cases tokens with
  | nil => simp [program_nil, Parse.statement]
  | cons placed following =>
      rw [program_cons]
      obtain ⟨outcome, left⟩ := Parse.statement (placed :: following)
      cases outcome with
      | error error => simp
      | ok read => cases outcome : Parse.program left <;> simp [Except.map, outcome]

/-- Only the empty list of tokens is the empty program. -/
theorem program_eq_ok_nil_iff (tokens : List PlacedToken) :
    Parse.program tokens = .ok [] ↔ tokens = [] := by
  cases tokens with
  | nil => simp [program_nil]
  | cons placed following =>
      rw [program_cons]
      obtain ⟨outcome, left⟩ := Parse.statement (placed :: following)
      cases outcome with
      | error error => simp
      | ok read => cases outcome : Parse.program left <;> simp [Except.map, outcome]

/-- The written form of a program starts with a term when its first statement is an assignment. -/
theorem startsWithTerm_of_written
    {program : Program}
    {tokens : List PlacedToken}
    (written : Written (programSlots program) tokens []) :
    startsWithTerm tokens = program.head?.any Statement.isAssignment := by
  cases program with
  | nil =>
      obtain rfl : tokens = [] := written
      rfl
  | cons first rest =>
      cases first with
      | declare name value line | assign name value line | print value line =>
          obtain ⟨⟨token, tokenLine⟩, following, rfl, ⟨rfl, -⟩, -⟩ :=
            (written_cons _ _ _ _).mp written
          rfl

/-- Reading succeeds on the written forms of canonical programs, and on nothing else. -/
theorem program_eq_ok_iff_written (tokens : List PlacedToken) (program : Program) :
    Parse.program tokens = .ok program ↔
      Canonical program ∧ Written (programSlots program) tokens [] := by
  induction program generalizing tokens with
  | nil => simp [program_eq_ok_nil_iff, canonical_nil, programSlots]
  | cons first rest inductionHypothesis =>
      rw [program_eq_ok_cons_iff, canonical_cons_iff, programSlots, List.flatMap_cons,
        written_append, ← programSlots]
      constructor
      · rintro ⟨left, readFirst, readRest⟩
        obtain ⟨flat, written, stops⟩ := (statement_eq_ok_iff _ _ _).mp readFirst
        obtain ⟨canonical, writtenRest⟩ := (inductionHypothesis left).mp readRest
        refine ⟨⟨flat, ?_, canonical⟩, left, written, writtenRest⟩
        intro next isNext operation assignment
        apply stops operation
        rw [startsWithTerm_of_written writtenRest, isNext]
        exact assignment
      · rintro ⟨⟨flat, allowed, canonical⟩, left, written, writtenRest⟩
        refine ⟨left, ?_, (inductionHypothesis left).mpr ⟨canonical, writtenRest⟩⟩
        refine (statement_eq_ok_iff _ _ _).mpr ⟨flat, written, ?_⟩
        intro operation starts
        rw [startsWithTerm_of_written writtenRest, Option.any_eq_true] at starts
        obtain ⟨next, isNext, assignment⟩ := starts
        exact allowed next isNext operation assignment

/-- **The reader accepts exactly its grammar and loses nothing.**  Tokens are read as a program if
and only if the program is canonical, the tokens without their lines are its written form, and each
node stands on the line of the token that it claims. -/
theorem program_eq_ok_iff (tokens : List PlacedToken) (program : Program) :
    Parse.program tokens = .ok program ↔
      Canonical program ∧
      tokens.map PlacedToken.token = (programSlots program).map Slot.token ∧
      List.Forall₂ OnClaimedLine tokens (programSlots program) := by
  rw [program_eq_ok_iff_written, written_all_iff]

end Grammar

end Reckoner
