import Reckoner.Dump.Program
import Reckoner.Failure

/-!
Contract: dumps of failures.

Owns: the names of constructors and fields in dumps of failures.

Does not own: the messages.
-/

namespace Reckoner

/-- The dump of a scan error.  The character is dumped as a text. -/
def ScanError.dump : ScanError → Dump
  | .unexpectedCharacter character line =>
      .record "UnexpectedCharacter"
        [.field "character" (.text (String.singleton character)), .line line]

/-- The dump of a grammar error.  Tokens are dumped by their texts. -/
def GrammarError.dump : GrammarError → Dump
  | .unexpectedToken token line =>
      .record "UnexpectedToken" [.field "token" (.text token.text), .line line]
  | .expectedIdentifier found line =>
      .record "ExpectedIdentifier" [.field "found" (.text found.text), .line line]
  | .expectedAssign name found line =>
      .record "ExpectedAssign"
        [.field "name" (.text name), .field "found" (.text found.text), .line line]
  | .unexpectedTokenInTerm token line =>
      .record "UnexpectedTokenInTerm" [.field "token" (.text token.text), .line line]
  | .arityViolation operator expected found line =>
      .record "ArityViolation"
        [.field "op" operator.dump, .field "expected" expected.dump, .field "found" (.nat found),
          .line line]
  | .unexpectedEnd line => .record "UnexpectedEndOfInput" [.line line]

def ScopeError.dump : ScopeError → Dump
  | .alreadyDeclared name line firstLine =>
      .record "AlreadyDeclared"
        [.field "name" (.text name), .line line, .field "first_line" (.nat firstLine)]
  | .notDeclared name line => .record "NotDeclared" [.field "name" (.text name), .line line]

/-- The dump of an evaluation error.  A fault is dumped by its wording. -/
def EvalError.dump : EvalError → Dump
  | .undefinedVariable name line =>
      .record "UndefinedVariable" [.field "name" (.text name), .line line]
  | .invalidOperand operator fault line =>
      .record "InvalidOperand"
        [.field "op" operator.dump, .field "details" (.text fault.text), .line line]
  | .missingOperand operator line =>
      .record "MissingOperand" [.field "op" operator.dump, .line line]
  | .divisionByZero line => .record "DivisionByZero" [.line line]

def Failure.dump : Failure → Dump
  | .scan error => .tuple "Lex" [error.dump]
  | .grammar error => .tuple "Syntax" [error.dump]
  | .scope error => .tuple "Semantic" [error.dump]
  | .eval error => .tuple "Runtime" [error.dump]

end Reckoner
