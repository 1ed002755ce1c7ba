/-!
Contract: text without the characters that steer a terminal.

Control characters are left out, apart from those that only move on along or between lines, and so
are control sequences: an escape character and what belongs to it.  A sequence that never ends
takes the rest of the text with it.

Owns: the grammar of control sequences, and what is left of a text without them.

Does not own: which texts go to a terminal.
-/

namespace Reckoner.ControlSequence

/-- How far a control sequence has been read. -/
inductive Phase where
  /-- No sequence is open. -/
  | plain
  /-- The escape character has been read. -/
  | escape
  /-- An escape sequence of more than two characters is open. -/
  | escapeCode
  /-- A control function is open, which ends with its letter. -/
  | function
  /-- A command to the operating system is open, which ends with a bell. -/
  | command
  /-- A device control string was opened. -/
  | device
  /-- The parameters of a device control string are being read. -/
  | deviceParameters
  /-- The characters after the parameters of a device control string are being read. -/
  | deviceCode
  /-- A string is open, which ends with its terminator. -/
  | string
deriving DecidableEq

/-- Whether a control character only moves on along a line or to another one. -/
def isBlankControl (c : Char) : Bool :=
  c = '\t' || c = '\n' || c = '\x0c' || c = '\r'

/-- Whether a character ends a string.  The terminator is a single byte, and it counts wherever it
stands in the encoding of a character. -/
def isTerminator (c : Char) : Bool :=
  (String.utf8EncodeChar c).contains 0x9c

namespace Phase

/-- Whether a character is shown: in plain text every character that is no control character, and
there and in an open sequence that is no string the blank ones of the control characters. -/
def shows : Phase → Char → Bool
  | .plain, c => isBlankControl c || (' ' ≤ c && c ≠ '\x7f')
  | .escape, c | .escapeCode, c | .function, c => isBlankControl c
  | _, _ => false

/-- The phase after a character that is no control character below the space. -/
def afterGraphic : Phase → Char → Phase
  | .plain, _ => .plain
  | .escape, c =>
      if c ≤ '/' then .escapeCode
      else if c = 'P' then .device
      else if c = '[' then .function
      else if c = ']' then .command
      else if c = 'X' || c = '^' || c = '_' then .string
      else if c ≤ '~' then .plain
      else .escape
  | .escapeCode, c => if '0' ≤ c && c ≤ '~' then .plain else .escapeCode
  | .function, c => if '@' ≤ c && c ≤ '~' then .plain else .function
  | .command, _ => .command
  | .device, c =>
      if c ≤ '/' then .deviceCode
      else if c ≤ '?' then .deviceParameters
      else if c ≤ '~' then .string
      else .device
  | .deviceParameters, c =>
      if c ≤ '/' then .deviceCode
      else if c ≤ ';' then .deviceParameters
      else if c ≤ '~' then .string
      else .deviceParameters
  | .deviceCode, c => if '0' ≤ c && c ≤ '~' then .string else .deviceCode
  | .string, c => if isTerminator c then .plain else .string

/-- The phase after a character.  An escape character opens a sequence, and a cancel or a substitute
character ends it, wherever they stand. -/
def next (phase : Phase) (c : Char) : Phase :=
  if c = '\x1b' then .escape
  else if c = '\x18' || c = '\x1a' then .plain
  else if ' ' ≤ c then phase.afterGraphic c
  else if phase = .command && c = '\x07' then .plain
  else phase

end Phase

/-- How far a text has been read: the phase, and whether the character before was shown. -/
structure Reading where
  phase : Phase
  shown : Bool
deriving DecidableEq

namespace Reading

def start : Reading := ⟨.plain, false⟩

/-- Whether the next character is shown.  What follows a shown character is plain text, even if a
blank has interrupted a sequence. -/
def shows (reading : Reading) (c : Char) : Bool :=
  (if reading.shown then .plain else reading.phase : Phase).shows c

/-- The reading after a character.  An interrupted sequence is taken up again at the next character
that is not shown; a shown character beyond ASCII ends it. -/
def next (reading : Reading) (c : Char) : Reading :=
  if reading.shows c then ⟨if c ≤ '\x7f' then reading.phase else .plain, true⟩
  else ⟨reading.phase.next c, false⟩

/-- The characters that are shown of the rest of a text. -/
def visible : Reading → List Char → List Char
  | _, [] => []
  | reading, c :: rest =>
      if reading.shows c then c :: visible (reading.next c) rest
      else visible (reading.next c) rest

end Reading

/-- A text without control sequences and control characters. -/
def strip (text : String) : String :=
  String.ofList (Reading.start.visible text.toList)

end Reckoner.ControlSequence
