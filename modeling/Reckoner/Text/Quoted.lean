import Reckoner.Text.DefaultIgnorable
import Reckoner.Text.ExtendingMark
import Reckoner.Text.Unprintable

/-!
Contract: text between double quotes, on one line and with every character visible.

Owns: the escapes.  A quote, a backslash, a line feed, a carriage return, a tab and the null
character have short ones; a character that is unprintable, that is drawn as nothing, or that would
merge with the one before it, is written by its code point.

Does not own: the decision which characters are visible.
-/

namespace Reckoner.Quoted

/-- Whether a character is written by its code point. -/
def isHidden (c : Char) : Bool :=
  CharRanges.unprintable.contains c || CharRanges.defaultIgnorable.contains c ||
    CharRanges.extendingMark.contains c

/-- A character between quotes. -/
def escape : Char → List Char
  | '"' => ['\\', '"']
  | '\\' => ['\\', '\\']
  | '\n' => ['\\', 'n']
  | '\r' => ['\\', 'r']
  | '\t' => ['\\', 't']
  | '\x00' => ['\\', '0']
  | c =>
      if isHidden c then ['\\', 'u', '\x7b'] ++ Nat.toDigits 16 c.toNat ++ ['\x7d'] else [c]

def quote (text : String) : String :=
  String.ofList (['"'] ++ text.toList.flatMap escape ++ ['"'])

end Reckoner.Quoted
