/-!
Contract: structural dumps of values.

A dump shows how a value is built: constructors with their arguments or with named fields, and
lists.  It is laid out on one line, or with one part a line.

Owns: dumps and their two layouts.

Does not own: the dumps of particular types.
-/

namespace Reckoner

/-- How a value is built. -/
inductive Dump where
  /-- A value that is written as it is. -/
  | atom (text : String)
  /-- A named field of a record. -/
  | field (name : String) (value : Dump)
  /-- A constructor and its arguments. -/
  | tuple (name : String) (arguments : List Dump)
  /-- A constructor and its named fields. -/
  | record (name : String) (fields : List Dump)
  | list (items : List Dump)

namespace Dump

mutual

def oneLine : Dump → String
  | .atom text => text
  | .field name value => s!"{name}: {oneLine value}"
  | .tuple name arguments => s!"{name}({oneLineAll arguments})"
  | .record name fields => s!"{name} \x7b {oneLineAll fields} \x7d"
  | .list items => s!"[{oneLineAll items}]"

def oneLineAll : List Dump → String
  | [] => ""
  | [part] => oneLine part
  | part :: rest => s!"{oneLine part}, {oneLineAll rest}"

end

def indentation (depth : Nat) : String :=
  String.ofList (List.replicate (4 * depth) ' ')

mutual

/-- A dump over several lines, at a depth of indentation. -/
def indented (depth : Nat) : Dump → String
  | .atom text => text
  | .field name value => s!"{name}: {indented depth value}"
  | .tuple name arguments =>
      s!"{name}(\n{indentedAll (depth + 1) arguments}{indentation depth})"
  | .record name fields =>
      s!"{name} \x7b\n{indentedAll (depth + 1) fields}{indentation depth}\x7d"
  | .list [] => "[]"
  | .list items => s!"[\n{indentedAll (depth + 1) items}{indentation depth}]"

/-- Parts on lines of their own, each followed by a comma. -/
def indentedAll (depth : Nat) : List Dump → String
  | [] => ""
  | part :: rest =>
      s!"{indentation depth}{indented depth part},\n{indentedAll depth rest}"

end

end Dump

end Reckoner
