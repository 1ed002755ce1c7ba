import Reckoner.Token

/-!
Contract: everything that can go wrong with a script, by cause.

Each stage has a type of its own: text that holds no token, tokens that form no statement,
declarations that clash, and operations without a value.  A cause carries the data that its message
needs and the line that the message names.

Owns: the causes, their messages, and the sum of the four.

Does not own: when a cause arises.
-/

namespace Reckoner

/-- Why a text is no list of tokens. -/
inductive ScanError where
  | unexpectedCharacter (character : Char) (line : Nat)
deriving DecidableEq

/-- Why a list of tokens is no program. -/
inductive GrammarError where
  | unexpectedToken (token : Token) (line : Nat)
  | expectedIdentifier (found : Token) (line : Nat)
  | expectedAssign (name : String) (found : Token) (line : Nat)
  | unexpectedTokenInTerm (token : Token) (line : Nat)
  | arityViolation (operator : Operator) (expected : Arity) (found : Nat) (line : Nat)
  | unexpectedEnd (line : Nat)
deriving DecidableEq

/-- Why the declarations of a program clash. -/
inductive ScopeError where
  | alreadyDeclared (name : String) (line : Nat) (firstLine : Nat)
  | notDeclared (name : String) (line : Nat)
deriving DecidableEq

/-- What an operator has against an operand. -/
inductive OperandFault where
  | notFolding
  | notFunction
  | notPositive (value : Number)
deriving DecidableEq

/-- Why an expression has no value. -/
inductive EvalError where
  | undefinedVariable (name : String) (line : Nat)
  | invalidOperand (operator : Operator) (fault : OperandFault) (line : Nat)
  | missingOperand (operator : Operator) (line : Nat)
  | divisionByZero (line : Nat)
deriving DecidableEq

inductive Failure where
  | scan (error : ScanError)
  | grammar (error : GrammarError)
  | scope (error : ScopeError)
  | eval (error : EvalError)
deriving DecidableEq

/-- A message, opened by the line that it is about. -/
def messageOnLine (line : Nat) (text : String) : String :=
  s!"Error on line {line}: {text}."

def ScanError.message : ScanError → String
  | .unexpectedCharacter character line =>
      messageOnLine line s!"Unexpected character: '{character}'"

def GrammarError.message : GrammarError → String
  | .unexpectedToken token line =>
      messageOnLine line s!"Unexpected token in statement: {token.text}"
  | .expectedIdentifier found line =>
      messageOnLine line s!"Expected identifier after VAR, found: {found.text}"
  | .expectedAssign name found line =>
      messageOnLine line s!"Expected '=' after identifier '{name}', found: {found.text}"
  | .unexpectedTokenInTerm token line =>
      messageOnLine line s!"Unexpected token in term: {token.text}"
  | .arityViolation operator expected found line =>
      messageOnLine line
        s!"Operation '{operator.keyword}' requires {expected.text} operand(s), found {found}"
  | .unexpectedEnd line => messageOnLine line "Unexpected end of input"

def ScopeError.message : ScopeError → String
  | .alreadyDeclared name line firstLine =>
      messageOnLine line s!"Variable '{name}' already declared on line {firstLine}"
  | .notDeclared name line => messageOnLine line s!"Variable '{name}' not declared"

def OperandFault.text : OperandFault → String
  | .notFolding => "not a folding operator"
  | .notFunction => "not a function operator"
  | .notPositive value => s!"logarithm operand must be positive, found {value.text}"

def EvalError.message : EvalError → String
  | .undefinedVariable name line => messageOnLine line s!"Variable '{name}' is not defined"
  | .invalidOperand operator fault line =>
      messageOnLine line s!"Invalid operand for {operator.keyword}: {fault.text}"
  | .missingOperand operator line =>
      messageOnLine line s!"Operation '{operator.keyword}' has no operands"
  | .divisionByZero line => messageOnLine line "Division by zero"

def Failure.message : Failure → String
  | .scan error => error.message
  | .grammar error => error.message
  | .scope error => error.message
  | .eval error => error.message

end Reckoner
