import Reckoner.Token

/-!
Contract: programs as trees.

Owns: expressions and statements, the lines they carry, and their decidable equality.

Does not own: which trees a script can denote.  A tree may nest operations, hold groups, and give an
operator any number of operands.
-/

namespace Reckoner

/-- An expression and, at each node, the line it stands on. -/
inductive Expr where
  | number (value : Number) (line : Nat)
  | identifier (name : String) (line : Nat)
  | group (inner : Expr) (line : Nat)
  | operation (operator : Operator) (operands : List Expr) (line : Nat)

/-- A statement and the line it starts on. -/
inductive Statement where
  | declare (name : String) (value : Expr) (line : Nat)
  | assign (name : String) (value : Expr) (line : Nat)
  | print (value : Expr) (line : Nat)

abbrev Program := List Statement

namespace Expr

mutual

def decideEq : (left right : Expr) → Decidable (left = right)
  | .number leftValue leftLine, .number rightValue rightLine =>
      decidable_of_iff (leftValue = rightValue ∧ leftLine = rightLine) (by simp)
  | .identifier leftName leftLine, .identifier rightName rightLine =>
      decidable_of_iff (leftName = rightName ∧ leftLine = rightLine) (by simp)
  | .group left leftLine, .group right rightLine =>
      match decideEq left right with
      | .isTrue same =>
          decidable_of_iff (leftLine = rightLine) (by simp [same])
      | .isFalse different => .isFalse (by simp [different])
  | .operation leftOperator leftOperands leftLine,
      .operation rightOperator rightOperands rightLine =>
      match decideEqAll leftOperands rightOperands with
      | .isTrue same =>
          decidable_of_iff (leftOperator = rightOperator ∧ leftLine = rightLine) (by simp [same])
      | .isFalse different => .isFalse (by simp [different])
  | .number .., .identifier .. | .number .., .group .. | .number .., .operation ..
  | .identifier .., .number .. | .identifier .., .group .. | .identifier .., .operation ..
  | .group .., .number .. | .group .., .identifier .. | .group .., .operation ..
  | .operation .., .number .. | .operation .., .identifier .. | .operation .., .group .. =>
      .isFalse (by simp)

def decideEqAll : (left right : List Expr) → Decidable (left = right)
  | [], [] => .isTrue rfl
  | [], _ :: _ | _ :: _, [] => .isFalse (by simp)
  | left :: leftRest, right :: rightRest =>
      match decideEq left right, decideEqAll leftRest rightRest with
      | .isTrue sameHead, .isTrue sameRest => .isTrue (by simp [sameHead, sameRest])
      | .isFalse different, _ => .isFalse (by simp [different])
      | _, .isFalse different => .isFalse (by simp [different])

end

instance : DecidableEq Expr := decideEq

def line : Expr → Nat
  | .number _ line | .identifier _ line | .group _ line | .operation _ _ line => line

end Expr

deriving instance DecidableEq for Statement

def Statement.line : Statement → Nat
  | .declare _ _ line | .assign _ _ line | .print _ line => line

end Reckoner
