/-!
Contract: the operators of the language and how many operands each one takes.

An operator either folds its operands from the left, two values at a time, or is a function of its
first operand.  The two families have types of their own, so that later definitions can say which
family they are about.

Owns: the ten operators, their keywords, the symbols of the folding ones, and arities.

Does not own: the meaning of the operators on numbers.
-/

namespace Reckoner

/-- Operators that combine a running result with the next operand. -/
inductive FoldOperator where
  | add
  | sub
  | mul
  | div
  | mod
  | pow
deriving DecidableEq

/-- Operators that are functions of one value. -/
inductive FunctionOperator where
  | log
  | sin
  | cos
  | tan
deriving DecidableEq

inductive Operator where
  | fold (operator : FoldOperator)
  | function (operator : FunctionOperator)
deriving DecidableEq

def FoldOperator.symbol : FoldOperator → String
  | .add => "+"
  | .sub => "-"
  | .mul => "*"
  | .div => "/"
  | .mod => "%"
  | .pow => "^"

def FoldOperator.keyword : FoldOperator → String
  | .add => "ADD"
  | .sub => "SUB"
  | .mul => "MUL"
  | .div => "DIV"
  | .mod => "MOD"
  | .pow => "POW"

def FunctionOperator.keyword : FunctionOperator → String
  | .log => "LOG"
  | .sin => "SIN"
  | .cos => "COS"
  | .tan => "TAN"

/-- A condition on the number of operands. -/
inductive Arity where
  | exact (count : Nat)
  | atLeast (count : Nat)
deriving DecidableEq

namespace Arity

def accepts : Arity → Nat → Bool
  | .exact count, found => found == count
  | .atLeast count, found => count ≤ found

def text : Arity → String
  | .exact count => s!"exactly {count}"
  | .atLeast count => s!"at least {count}"

end Arity

namespace Operator

/-- The keyword of an operator, which is also its assembly mnemonic. -/
def keyword : Operator → String
  | .fold operator => operator.keyword
  | .function operator => operator.keyword

/-- The infix symbol, which only folding operators have. -/
def symbol? : Operator → Option String
  | .fold operator => some operator.symbol
  | .function _ => none

/-- The operators with a symbol are the folding ones, and each has its own. -/
theorem symbol?_eq_some_iff (operator : Operator) (symbol : String) :
    operator.symbol? = some symbol ↔ ∃ step, operator = .fold step ∧ step.symbol = symbol := by
  cases operator <;> simp [symbol?]

theorem symbol?_eq_none_iff (operator : Operator) :
    operator.symbol? = none ↔ ∃ function, operator = .function function := by
  cases operator <;> simp [symbol?]

/-- How many operands a script has to give.  A logarithm is written with two operands although
only the first one counts. -/
def arity : Operator → Arity
  | .fold .pow | .function .log => .exact 2
  | .fold _ => .atLeast 2
  | .function _ => .exact 1

def all : List Operator :=
  [.fold .add, .fold .sub, .fold .mul, .fold .div, .fold .mod, .fold .pow,
    .function .log, .function .sin, .function .cos, .function .tan]

/-- No operator is left out. -/
theorem mem_all (operator : Operator) : operator ∈ all := by
  rcases operator with operator | operator <;> cases operator <;> decide

def ofKeyword? (word : String) : Option Operator :=
  all.find? fun operator => operator.keyword = word

/-- Keywords tell operators apart. -/
theorem ofKeyword?_keyword (operator : Operator) :
    ofKeyword? operator.keyword = some operator := by
  rcases operator with operator | operator <;> cases operator <;> decide

end Operator

end Reckoner
