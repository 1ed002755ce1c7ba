import Reckoner.Failure
import Reckoner.NameMap
import Reckoner.Program

/-!
Contract: which declarations of a program are legal.

A variable is declared once, and declared before it is assigned to.  Expressions are not looked at.

Owns: the declared names with their lines, and the check of a program against them.

Does not own: the values of variables.
-/

namespace Reckoner

/-- The declared names, each with the line of its declaration. -/
abbrev Declarations := NameMap Nat

namespace Declarations

def checkStatement (known : Declarations) : Statement → Except ScopeError Declarations
  | .declare name _ line =>
      match known.find? name with
      | some firstLine => .error (.alreadyDeclared name line firstLine)
      | none => .ok (known.insert name line)
  | .assign name _ line =>
      if known.contains name then .ok known else .error (.notDeclared name line)
  | .print .. => .ok known

/-- Checks a program up to its first illegal statement, if it has one.  The second part holds what
was declared before that statement, or by the whole program. -/
def check (known : Declarations) : Program → Except ScopeError Unit × Declarations
  | [] => (.ok (), known)
  | statement :: rest =>
      match known.checkStatement statement with
      | .error error => (.error error, known)
      | .ok extended => check extended rest

end Declarations

end Reckoner
