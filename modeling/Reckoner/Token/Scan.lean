import Reckoner.Failure
import Reckoner.Lexeme

/-!
Contract: the tokens of a script.

Owns: the value of a numeral, the token of a lexeme, the lines on which tokens stand, and the
reading of a whole script.

Does not own: where one lexeme ends and the next begins.
-/

namespace Reckoner

namespace Number

/-- The value of a numeral.  With a point it is a real, without one it is an integer; an integer
that does not fit in 64 bits is read as a real. -/
def ofNumeral (negative : Bool) (whole fraction : List Char) : Number :=
  let coefficient := Decimal.ofDigits (whole ++ fraction)
  let real := Number.real
    (Binary64.ofMagnitude negative (Binary64.ofDecimal ⟨coefficient, -(fraction.length : Int)⟩))
  if fraction.isEmpty then
    match ofInt? (if negative then -(coefficient : Int) else coefficient) with
    | some value => .integer value
    | none => real
  else real

end Number

namespace Lexeme

def token? : Lexeme → Option Token
  | .numeral negative whole fraction => some (.number (Number.ofNumeral negative whole fraction))
  | .word letters => some (Token.ofWord (String.ofList letters))
  | .equals => some .assign
  | .newline | .blanks _ => none

def lineAfter (line : Nat) : Lexeme → Nat
  | .newline => line + 1
  | _ => line

/-- The tokens of lexemes that start on `line`, each with its own line. -/
def tokensFrom (line : Nat) : List Lexeme → List PlacedToken
  | [] => []
  | lexeme :: rest =>
      let following := tokensFrom (lexeme.lineAfter line) rest
      match lexeme.token? with
      | some token => ⟨token, line⟩ :: following
      | none => following

end Lexeme

namespace Token

/-- The tokens of a text, or the first character at which no lexeme starts. -/
def scanCharacters (source : List Char) : Except ScanError (List PlacedToken) :=
  let (lexemes, remainder) := Lexeme.cut source
  match remainder with
  | [] => .ok (Lexeme.tokensFrom 1 lexemes)
  | character :: _ => .error (.unexpectedCharacter character (lexemes.foldl Lexeme.lineAfter 1))

def scan (source : String) : Except ScanError (List PlacedToken) :=
  scanCharacters source.toList

end Token

end Reckoner
