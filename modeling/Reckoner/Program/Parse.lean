import Reckoner.Failure
import Reckoner.Program

/-!
Contract: programs from tokens.

A statement is `VAR name = expression`, `name = expression` or `PRINT expression`.  An expression is
one term, or an operator keyword with the terms that follow it: operands are taken as long as there
are numbers and identifiers.  One token of lookahead decides every choice.

Owns: the reading of terms, operations, expressions, statements and programs, which tokens each of
them consumes, and the law that a statement consumes at least one.

Does not own: the meaning of a program.
-/

namespace Reckoner.Parse

/-- The outcome of reading one part of a program, and the tokens it left. -/
abbrev Parsed (α : Type) := Except GrammarError α × List PlacedToken

/-- Turns what was read into something else; errors and the tokens left stay. -/
def Parsed.map {α β : Type} (convert : α → β) (parsed : Parsed α) : Parsed β :=
  (parsed.1.map convert, parsed.2)

/-- The term that a token stands for: a number or an identifier. -/
def term? : PlacedToken → Option Expr
  | ⟨.number value, line⟩ => some (.number value line)
  | ⟨.identifier name, line⟩ => some (.identifier name line)
  | _ => none

/-- Reads one term; `line` is reported when there is no token. -/
def term (line : Nat) : List PlacedToken → Parsed Expr
  | [] => (.error (.unexpectedEnd line), [])
  | placed :: rest =>
      match term? placed with
      | some expr => (.ok expr, rest)
      | none => (.error (.unexpectedTokenInTerm placed.token placed.line), rest)

def operands : List PlacedToken → List Expr × List PlacedToken
  | [] => ([], [])
  | placed :: rest =>
      match term? placed with
      | some expr =>
          let (exprs, left) := operands rest
          (expr :: exprs, left)
      | none => ([], placed :: rest)

def operation (operator : Operator) (line : Nat) (tokens : List PlacedToken) : Parsed Expr :=
  let (exprs, left) := operands tokens
  if operator.arity.accepts exprs.length then (.ok (.operation operator exprs line), left)
  else (.error (.arityViolation operator operator.arity exprs.length line), left)

/-- Reads an operation or a term; `line` is reported when there is no token. -/
def expression (line : Nat) : List PlacedToken → Parsed Expr
  | ⟨.operator operator, operatorLine⟩ :: rest => operation operator operatorLine rest
  | tokens => term line tokens

/-- Reads an equals sign and the expression after it, for the variable `name` of a statement that
starts on `line`. -/
def definition (name : String) (line : Nat) : List PlacedToken → Parsed Expr
  | ⟨.assign, _⟩ :: rest => expression line rest
  | ⟨found, foundLine⟩ :: rest => (.error (.expectedAssign name found foundLine), rest)
  | [] => (.error (.unexpectedEnd line), [])

/-- Reads one statement.  A token that starts no statement is not consumed. -/
def statement : List PlacedToken → Parsed Statement
  | ⟨.var, line⟩ :: ⟨.identifier name, _⟩ :: rest =>
      (definition name line rest).map (.declare name · line)
  | ⟨.var, _⟩ :: ⟨found, foundLine⟩ :: rest =>
      (.error (.expectedIdentifier found foundLine), rest)
  | [⟨.var, line⟩] => (.error (.unexpectedEnd line), [])
  | ⟨.print, line⟩ :: rest => (expression line rest).map (.print · line)
  | ⟨.identifier name, line⟩ :: rest => (definition name line rest).map (.assign name · line)
  | ⟨token, line⟩ :: rest => (.error (.unexpectedToken token line), ⟨token, line⟩ :: rest)
  | [] => (.error (.unexpectedEnd 0), [])

/-- Taking operands adds no token. -/
theorem length_operands_le (tokens : List PlacedToken) :
    (operands tokens).2.length ≤ tokens.length := by
  induction tokens with
  | nil => simp [operands]
  | cons placed rest inductionHypothesis =>
      simp only [operands]
      split
      · simpa using Nat.le_succ_of_le inductionHypothesis
      · simp

theorem length_operation_le (operator : Operator) (line : Nat) (tokens : List PlacedToken) :
    (operation operator line tokens).2.length ≤ tokens.length := by
  have bound := length_operands_le tokens
  simp only [operation]
  split <;> exact bound

theorem length_term_le (line : Nat) (tokens : List PlacedToken) :
    (term line tokens).2.length ≤ tokens.length := by
  cases tokens with
  | nil => simp [term]
  | cons placed rest =>
      simp only [term]
      split <;> simp

theorem length_expression_le (line : Nat) (tokens : List PlacedToken) :
    (expression line tokens).2.length ≤ tokens.length := by
  unfold expression
  split
  · exact Nat.le_succ_of_le (length_operation_le _ _ _)
  · exact length_term_le _ _

theorem length_definition_le (name : String) (line : Nat) (tokens : List PlacedToken) :
    (definition name line tokens).2.length ≤ tokens.length := by
  unfold definition
  split
  · exact Nat.le_succ_of_le (length_expression_le _ _)
  · simp
  · simp

/-- A statement that was read consumed at least one token. -/
theorem length_lt_of_statement
    {tokens rest : List PlacedToken}
    {read : Statement}
    (parsed : statement tokens = (.ok read, rest)) :
    rest.length < tokens.length := by
  have left : rest = (statement tokens).2 := by rw [parsed]
  have succeeded : (statement tokens).1 = .ok read := by rw [parsed]
  subst left
  unfold statement at succeeded ⊢
  split at succeeded
  · rename_i name _ following
    exact Nat.lt_of_le_of_lt (length_definition_le name _ following)
      (by simp only [List.length_cons]; omega)
  · simp at succeeded
  · simp at succeeded
  · exact Nat.lt_of_le_of_lt (length_expression_le _ _) (by simp)
  · exact Nat.lt_of_le_of_lt (length_definition_le _ _ _) (by simp)
  · simp at succeeded
  · simp at succeeded

def program (tokens : List PlacedToken) : Except GrammarError Program :=
  if tokens.isEmpty then .ok []
  else
    match _ : statement tokens with
    | (.error error, _) => .error error
    | (.ok first, rest) => (program rest).map (first :: ·)
termination_by tokens.length
decreasing_by exact length_lt_of_statement (by assumption)

end Reckoner.Parse
