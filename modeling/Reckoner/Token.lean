import Reckoner.Number.Text
import Reckoner.Operator

/-!
Contract: tokens, the words of a script.

Owns: the kinds of token, their names and texts, which words are keywords, and the pairing of a
token with the line it stands on.

Does not own: how tokens are found in text.
-/

namespace Reckoner

/-- A token.  `newline` and `blank` stand for skipped text; reading a script never yields them. -/
inductive Token where
  | number (value : Number)
  | operator (operator : Operator)
  | var
  | print
  | assign
  | identifier (name : String)
  | newline
  | blank
deriving DecidableEq

namespace Token

def operator? : Token → Option Operator
  | .operator op => some op
  | _ => none

def kind : Token → String
  | .number _ => "NUMBER"
  | .operator op => op.keyword
  | .var => "VAR"
  | .print => "PRINT"
  | .assign => "ASSIGN"
  | .identifier _ => "ID"
  | .newline | .blank => "SKIP"

/-- The content of a token as it is shown beside its kind. -/
def content : Token → String
  | .number value => value.text
  | .identifier name => name
  | .assign => "="
  | token => token.kind

def text (token : Token) : String :=
  s!"({token.kind}, {token.content})"

/-- The token of a word: a keyword if the whole word is one, and otherwise an identifier. -/
def ofWord (word : String) : Token :=
  if word = "VAR" then .var
  else if word = "PRINT" then .print
  else
    match Operator.ofKeyword? word with
    | some op => .operator op
    | none => .identifier word

end Token

structure PlacedToken where
  token : Token
  line : Nat
deriving DecidableEq

end Reckoner
