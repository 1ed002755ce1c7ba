import Reckoner.Proofs.Concatenation

/-!
Contract: where a script may be cut into two scripts.

A text may be cut at any blank and at any line break: its tokens are those of the part before the
cut and then those of the part behind it, and the first part that cannot be scanned decides the
error.  Tokens may be cut between any two statements, except that an operation takes the terms
behind it for operands.  Where this happens, no reading of the whole keeps the program that stands
before the cut.

Owns: the composition of the scanner at separators, and the condition under which the reader
composes.

Does not own: what a run makes of the two parts.
-/

namespace Reckoner

/-! ### Cuts of a text -/

namespace Token

/-- **Scanning composes at separators.**  An error of the first part is an error of the whole.  When
the first part has tokens, they are followed by the tokens of the second part, or the error of the
second part is reported; both stand further down by the line breaks before the second part. -/
theorem scan_composes_at_separator
    {separator : Char}
    (separates : Lexeme.Separates separator)
    (front behind : String) :
    let whole := front ++ String.singleton separator ++ behind
    let lines := (front ++ String.singleton separator).toList.count '\n'
    (∀ error, scan front = .error error → scan whole = .error error) ∧
    (∀ tokens, scan front = .ok tokens →
      (∀ others, scan behind = .ok others →
        scan whole = .ok (tokens ++ others.map (PlacedToken.moved lines))) ∧
      (∀ character line, scan behind = .error (.unexpectedCharacter character line) →
        scan whole = .error (.unexpectedCharacter character (line + lines)))) := by
  intro whole lines
  have characters : (front ++ String.singleton separator).toList =
      front.toList ++ [separator] := by simp
  have seam := scan_append separates front behind
  rw [← characters] at seam
  refine ⟨?_, ?_⟩
  · intro error failed
    rw [failed] at seam
    exact seam
  · intro tokens scanned
    rw [scanned] at seam
    refine ⟨?_, ?_⟩
    · intro others scannedBehind
      rw [scannedBehind] at seam
      exact seam
    · intro character line failedBehind
      rw [failedBehind] at seam
      exact seam

/-- A minus sign before the blank stays without its digit, and a numeral before the line break does
not go on behind it. -/
theorem scan_composes_at_separator_numerals :
    Lexeme.Separates ' ' ∧ Lexeme.Separates '\n' ∧
    scan "-" = .error (.unexpectedCharacter '-' 1) ∧
    scan ("-" ++ String.singleton ' ' ++ "5") = .error (.unexpectedCharacter '-' 1) ∧
    scan "1" = .ok [⟨.number (.integer 1), 1⟩] ∧
    scan ".5" = .error (.unexpectedCharacter '.' 1) ∧
    scan ("1" ++ String.singleton '\n' ++ ".5") = .error (.unexpectedCharacter '.' 2) := by
  have blank : Lexeme.Separates ' ' := .inr (by decide)
  have newline : Lexeme.Separates '\n' := .inl rfl
  have minus : scan "-" = .error (.unexpectedCharacter '-' 1) := by decide +kernel
  have one : scan "1" = .ok [⟨.number (.integer 1), 1⟩] := by decide +kernel
  have point : scan ".5" = .error (.unexpectedCharacter '.' 1) := by decide +kernel
  refine ⟨blank, newline, minus, ?_, one, point, ?_⟩
  · exact (scan_composes_at_separator blank "-" "5").1 _ minus
  · exact ((scan_composes_at_separator newline "1" ".5").2 _ one).2 _ _ point

end Token

/-! ### Cuts between statements -/

namespace Grammar

/-- Slots that are filled in order leave one remainder of the tokens. -/
theorem Written.unique
    {slots : List Slot}
    {tokens rest other : List PlacedToken}
    (written : Written slots tokens rest)
    (writtenToo : Written slots tokens other) :
    rest = other := by
  induction slots generalizing tokens with
  | nil => exact written.symm.trans writtenToo
  | cons slot slots inductionHypothesis =>
      obtain ⟨placed, following, rfl, -, remaining⟩ := (written_cons _ _ _ _).mp written
      exact inductionHypothesis remaining writtenToo.2

/-- Where the tokens of a part of a program end, those of the other statements begin. -/
theorem written_behind
    {tokens more : List PlacedToken}
    {first second : Program}
    (written : Written (programSlots first) tokens [])
    (writtenAll : Written (programSlots (first ++ second)) (tokens ++ more) []) :
    Written (programSlots second) more [] := by
  have split : programSlots (first ++ second) = programSlots first ++ programSlots second :=
    List.flatMap_append
  rw [split, written_append] at writtenAll
  obtain ⟨middle, writtenFirst, writtenSecond⟩ := writtenAll
  -- The tokens of the first part alone already fix where it ends.
  have reached : middle = more := writtenFirst.unique (written_append_right written more)
  rw [← reached]
  exact writtenSecond

/-- In a canonical program no assignment stands behind an operation, wherever the program is cut. -/
theorem Canonical.not_isAssignment_behind
    {first second : Program}
    (canonical : Canonical (first ++ second))
    {last : Statement}
    (isLast : last ∈ first.getLast?)
    (operation : last.value.isOperation) :
    ¬ second.head?.any Statement.isAssignment := by
  have separated := (List.isChain_append.mp canonical.separated).2.2
  intro starts
  rw [Option.any_eq_true] at starts
  obtain ⟨next, isNext, assignment⟩ := starts
  exact separated last isLast next isNext operation assignment

/-- An operation at the end of a program takes the term behind it, so the program is no longer the
start of what is read. -/
theorem not_prefix_of_taken_operand
    {tokens more : List PlacedToken}
    {program all : Program}
    (read : Parse.program tokens = .ok program)
    {last : Statement}
    (isLast : last ∈ program.getLast?)
    (operation : last.value.isOperation)
    (starts : startsWithTerm more)
    (readAll : Parse.program (tokens ++ more) = .ok all) :
    ¬ program <+: all := by
  rintro ⟨others, rfl⟩
  have written := ((program_eq_ok_iff_written _ _).mp read).2
  have accepted := (program_eq_ok_iff_written _ _).mp readAll
  have writtenOthers := written_behind written accepted.2
  -- A statement that starts with a term is an assignment, and none stands behind an operation.
  rw [startsWithTerm_of_written writtenOthers] at starts
  exact accepted.1.not_isAssignment_behind isLast operation starts

/-- **Reading composes except where operands reach across.**  When the first tokens are a program,
the second tokens are read as if they stood alone, unless they start with a term and the program
ends with an operation.  In that case the whole is not a program, or one that does not start with
the first. -/
theorem program_composes_unless_operands_reach
    {tokens : List PlacedToken}
    {program : Program}
    (read : Parse.program tokens = .ok program)
    (more : List PlacedToken) :
    ((more = [] ∨ ¬ startsWithTerm more ∨ program = [] ∨
        ∃ last ∈ program.getLast?, ¬ last.value.isOperation) →
      (∀ others, Parse.program more = .ok others →
        Parse.program (tokens ++ more) = .ok (program ++ others)) ∧
      (∀ error, Parse.program more = .error error →
        Parse.program (tokens ++ more) = .error error)) ∧
    ((∃ last ∈ program.getLast?, last.value.isOperation) → startsWithTerm more →
      ∀ all, Parse.program (tokens ++ more) = .ok all → ¬ program <+: all) := by
  refine ⟨?_, ?_⟩
  · intro separate
    have mayFollow : ∀ last ∈ program.getLast?, MayFollow last more := by
      intro last isLast operation
      rcases separate with rfl | noTerm | rfl | ⟨found, isFound, noOperation⟩
      · exact MayFollow.nil last operation
      · exact noTerm
      · cases isLast
      · have same : found = last := Option.mem_unique isFound isLast
        rw [same] at noOperation
        exact absurd operation noOperation
    have seam := program_append read mayFollow
    refine ⟨?_, ?_⟩
    · intro others readMore
      rw [readMore] at seam
      exact seam
    · intro error failed
      rw [failed] at seam
      exact seam
  · rintro ⟨last, isLast, operation⟩ starts all readAll
    exact not_prefix_of_taken_operand read isLast operation starts readAll

/-- Behind a sum a print statement is read as it is, and an assignment loses its target. -/
theorem program_composes_unless_operands_reach_sum :
    let sum : List PlacedToken :=
      [⟨.print, 1⟩, ⟨.operator (.fold .add), 1⟩, ⟨.number (.integer 1), 1⟩,
        ⟨.number (.integer 2), 1⟩]
    let printed : Statement := .print (.operation (.fold .add)
      [.number (.integer 1) 1, .number (.integer 2) 1] 1) 1
    Parse.program sum = .ok [printed] ∧
    Parse.program (sum ++ [⟨.print, 2⟩, ⟨.identifier "x", 2⟩]) =
      .ok ([printed] ++ [.print (.identifier "x" 2) 2]) ∧
    Parse.program (sum ++ [⟨.print, 2⟩]) = .error (.unexpectedEnd 2) ∧
    ∀ all, Parse.program (sum ++ [⟨.identifier "x", 2⟩]) = .ok all → ¬ [printed] <+: all := by
  intro sum printed
  have read : Parse.program sum = .ok [printed] := by decide +kernel
  have readPrint : Parse.program [⟨.print, 2⟩, ⟨.identifier "x", 2⟩] =
      .ok [.print (.identifier "x" 2) 2] := by decide +kernel
  have failed : Parse.program [⟨.print, 2⟩] = .error (.unexpectedEnd 2) := by decide +kernel
  refine ⟨read, ?_, ?_, ?_⟩
  · refine ((program_composes_unless_operands_reach read _).1 (.inr (.inl ?_))).1 _ readPrint
    decide
  · refine ((program_composes_unless_operands_reach read _).1 (.inr (.inl ?_))).2 _ failed
    decide
  · exact (program_composes_unless_operands_reach read _).2 ⟨printed, rfl, rfl⟩ rfl

end Grammar

end Reckoner
