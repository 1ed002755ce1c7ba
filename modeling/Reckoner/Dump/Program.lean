import Reckoner.Dump
import Reckoner.Program
import Reckoner.Text.Quoted

/-!
Contract: dumps of programs.

Owns: the names of constructors and fields in dumps of numbers, operators, expressions and
statements, and the text of reals in dumps.

Does not own: the layout.
-/

namespace Reckoner

namespace Dump

def nat (n : Nat) : Dump :=
  .atom (toString n)

/-- A text, in quotes. -/
def text (content : String) : Dump :=
  .atom (Quoted.quote content)

/-- The line of a node, as its last field. -/
def line (n : Nat) : Dump :=
  .field "line" (nat n)

end Dump

namespace Number

/-- Reals in dumps: an exponent has no plus sign and no leading zeros. -/
def dumpFormat : RealFormat where
  notANumber := "NaN"
  plus := ""
  exponentWidth := 1

def dump : Number → Dump
  | .integer value => .tuple "Integer" [.atom (String.ofList (Decimal.signedDigits value.toInt))]
  | .real value => .tuple "Real" [.atom (String.ofList (dumpFormat.text value))]

end Number

def Operator.dumpName : Operator → String
  | .fold .add => "Add"
  | .fold .sub => "Sub"
  | .fold .mul => "Mul"
  | .fold .div => "Div"
  | .fold .mod => "Mod"
  | .fold .pow => "Pow"
  | .function .log => "Log"
  | .function .sin => "Sin"
  | .function .cos => "Cos"
  | .function .tan => "Tan"

def Operator.dump (operator : Operator) : Dump :=
  .atom operator.dumpName

def Arity.dump : Arity → Dump
  | .exact count => .tuple "Exact" [.nat count]
  | .atLeast count => .tuple "AtLeast" [.nat count]

namespace Expr

mutual

def dump : Expr → Dump
  | .number value line => .record "Number" [.field "value" value.dump, .line line]
  | .identifier name line => .record "Identifier" [.field "name" (.text name), .line line]
  | .group inner line => .record "Group" [.field "expr" (dump inner), .line line]
  | .operation operator operands line =>
      .record "Operation"
        [.field "op" operator.dump, .field "operands" (.list (dumpAll operands)), .line line]

def dumpAll : List Expr → List Dump
  | [] => []
  | expr :: rest => dump expr :: dumpAll rest

end

end Expr

def Statement.dump : Statement → Dump
  | .declare name value line =>
      .record "Declare" [.field "name" (.text name), .field "expr" value.dump, .line line]
  | .assign name value line =>
      .record "Assign" [.field "name" (.text name), .field "expr" value.dump, .line line]
  | .print value line => .record "Print" [.field "expr" value.dump, .line line]

def Program.dump (program : Program) : Dump :=
  .list (program.map Statement.dump)

end Reckoner
