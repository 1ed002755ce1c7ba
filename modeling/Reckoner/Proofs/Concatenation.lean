import Reckoner.Proofs.Diagnosis
import Reckoner.Proofs.Frame
import Reckoner.Proofs.LongestMatch
import Reckoner.Proofs.OutputText
import Reckoner.Proofs.Stages

/-!
Contract: scripts that stand one behind the other.

No lexeme reaches across a separator, a line break or a blank, except that blanks merge with the
blanks next to them, and these have no token.  So the tokens of two texts with a separator between
them are those of the first text and then those of the second, on later lines.  The reader goes from
statement to statement, and only an operation takes a term behind it for an operand.  A run goes
through the statements in order and takes nothing back.

Owns: the scanner that starts on any line, the seam of two texts, the seam of two token lists, and
the prefixes that a run keeps when a script is continued.

Does not own: what the second part of a script does.
-/

namespace Reckoner

/-! ### The first lexeme before a separator -/

namespace Lexeme

/-- Characters that stand in no numeral, no word and no equals sign. -/
def Separates (c : Char) : Prop :=
  c = '\n' ∨ isBlank c

/-- A separator ends whatever stands before it. -/
theorem Separates.stops {c : Char} (separates : Separates c) :
    c.isDigit = false ∧ continuesWord c = false ∧ c ≠ '.' := by
  rcases separates with rfl | blank
  · decide
  · rw [Pattern.isBlank_iff] at blank
    rcases blank with rfl | rfl | rfl | rfl <;> decide

private theorem takeWhile_append_stop
    {belongs : Char → Bool}
    {stop : Char}
    (stops : belongs stop = false)
    (front more : List Char) :
    (front ++ stop :: more).takeWhile belongs = front.takeWhile belongs := by
  induction front with
  | nil => rw [List.nil_append, List.takeWhile_cons_of_neg (by simp [stops]), List.takeWhile_nil]
  | cons c rest inductionHypothesis =>
      rw [List.cons_append, List.takeWhile_cons, List.takeWhile_cons, inductionHypothesis]

private theorem dropWhile_append_stop
    {belongs : Char → Bool}
    {stop : Char}
    (stops : belongs stop = false)
    (front more : List Char) :
    (front ++ stop :: more).dropWhile belongs = front.dropWhile belongs ++ stop :: more := by
  induction front with
  | nil => rw [List.nil_append, List.dropWhile_cons_of_neg (by simp [stops]), List.dropWhile_nil,
      List.nil_append]
  | cons c rest inductionHypothesis =>
      rw [List.cons_append, List.dropWhile_cons, List.dropWhile_cons, inductionHypothesis]
      split <;> rfl

private theorem cutFraction_of_ne {c : Char} (noPoint : c ≠ '.') (rest : List Char) :
    cutFraction (c :: rest) = ([], c :: rest) := by
  unfold cutFraction
  split <;> simp_all

private theorem next?_of_no_shape
    {c : Char}
    (noSign : c ≠ '=' ∧ c ≠ '\n' ∧ c ≠ '-')
    (noDigit : ¬ c.isDigit)
    (noLetter : ¬ startsWord c)
    (noBlank : ¬ isBlank c)
    (rest : List Char) :
    next? (c :: rest) = none := by
  unfold next?
  split <;> simp_all

section Seam

variable {separator : Char} (separates : Separates separator) (more : List Char)
include separates

private theorem cutFraction_append (front : List Char) :
    cutFraction (front ++ separator :: more) =
      ((cutFraction front).1, (cutFraction front).2 ++ separator :: more) := by
  obtain ⟨noDigit, -, noPoint⟩ := separates.stops
  fun_cases cutFraction front with
  | case1 digit rest isDigit =>
      rw [List.cons_append, List.cons_append, cutFraction, if_pos isDigit,
        takeWhile_append_stop noDigit, dropWhile_append_stop noDigit]
  | case2 digit rest isNoDigit =>
      rw [List.cons_append, List.cons_append, cutFraction, if_neg isNoDigit]
  | case3 _ noFraction =>
      cases front with
      | nil => exact cutFraction_of_ne noPoint more
      | cons c rest =>
          by_cases point : c = '.'
          · subst point
            cases rest with
            | nil =>
                rw [List.cons_append, List.nil_append, cutFraction, if_neg (by simp [noDigit])]
            | cons digit following => exact absurd rfl (noFraction digit following)
          · exact cutFraction_of_ne point _

private theorem cutNumeral_append (negative : Bool) (digit : Char) (front : List Char) :
    cutNumeral negative digit (front ++ separator :: more) =
      ((cutNumeral negative digit front).1,
        (cutNumeral negative digit front).2 ++ separator :: more) := by
  obtain ⟨noDigit, -, -⟩ := separates.stops
  rw [cutNumeral, takeWhile_append_stop noDigit, dropWhile_append_stop noDigit,
    cutFraction_append separates]
  rfl

/-- The first lexeme of a text that starts with no blank is the same before a separator.  So is the
lack of one. -/
theorem next?_append
    {source : List Char}
    (nonempty : source ≠ [])
    (startsUnblank : ∀ c ∈ source.head?, isBlank c = false) :
    next? (source ++ separator :: more) =
      (next? source).map fun (lexeme, rest) => (lexeme, rest ++ separator :: more) := by
  obtain ⟨noDigit, noWord, -⟩ := separates.stops
  fun_cases next? source with
  | case1 => exact absurd rfl nonempty
  | case2 rest => rfl
  | case3 rest => rfl
  | case4 digit rest isDigit =>
      rw [List.cons_append, List.cons_append, next?, if_pos isDigit, cutNumeral_append separates]
      rfl
  | case5 digit rest isNoDigit =>
      rw [List.cons_append, List.cons_append, next?, if_neg isNoDigit]
      rfl
  | case6 c rest noEquals noNewline noMinus isDigit =>
      rw [List.cons_append, next?_digit isDigit, cutNumeral_append separates]
      rfl
  | case7 c rest noEquals noNewline noMinus isNoDigit starts =>
      rw [List.cons_append, next?_letter starts, takeWhile_append_stop noWord,
        dropWhile_append_stop noWord]
      rfl
  | case8 c rest noEquals noNewline noMinus isNoDigit noLetter blank =>
      rw [startsUnblank c rfl] at blank
      cases blank
  | case9 c rest noEquals noNewline noMinus isNoDigit noLetter noBlank =>
      by_cases minus : c = '-'
      · subst minus
        cases rest with
        | nil =>
            rw [List.cons_append, List.nil_append, next?, if_neg (by simp [noDigit])]
            rfl
        | cons digit following => exact absurd rfl (noMinus digit following rfl)
      · exact next?_of_no_shape ⟨noEquals, noNewline, minus⟩ isNoDigit noLetter noBlank _

end Seam

end Lexeme

/-! ### Texts with a separator between them -/

/-- A token that stands `lines` lines further down. -/
def PlacedToken.moved (lines : Nat) (placed : PlacedToken) : PlacedToken :=
  { placed with line := placed.line + lines }

def ScanError.moved (lines : Nat) : ScanError → ScanError
  | .unexpectedCharacter character line => .unexpectedCharacter character (line + lines)

namespace Token

open Lexeme (Separates)

/-- The tokens of a text that starts on `line`, or the first character at which no lexeme starts. -/
def scanFrom (line : Nat) (source : List Char) : Except ScanError (List PlacedToken) :=
  match (Lexeme.cut source).2 with
  | [] => .ok (Lexeme.tokensFrom line (Lexeme.cut source).1)
  | character :: _ =>
      .error (.unexpectedCharacter character ((Lexeme.cut source).1.foldl Lexeme.lineAfter line))

theorem scan_eq_scanFrom (source : String) : scan source = scanFrom 1 source.toList := rfl

theorem scanFrom_nil (line : Nat) : scanFrom line [] = .ok [] := by
  have nothing : Lexeme.cut [] = ([], []) := Lexeme.cut_of_next?_eq_none rfl
  rw [scanFrom, nothing]
  rfl

theorem scanFrom_of_stuck
    {character : Char}
    {rest : List Char}
    (stuck : Lexeme.next? (character :: rest) = none)
    (line : Nat) :
    scanFrom line (character :: rest) = .error (.unexpectedCharacter character line) := by
  rw [scanFrom, Lexeme.cut_of_next?_eq_none stuck]
  rfl

/-- One round of the scanner. -/
theorem scanFrom_of_next?
    {source rest : List Char}
    {lexeme : Lexeme}
    (first : Lexeme.next? source = some (lexeme, rest))
    (line : Nat) :
    scanFrom line source =
      (scanFrom (lexeme.lineAfter line) rest).map
        ((lexeme.token?.map (PlacedToken.mk · line)).toList ++ ·) := by
  rw [scanFrom, scanFrom, Lexeme.cut_of_next? first]
  cases (Lexeme.cut rest).2 with
  | nil =>
      simp only [Lexeme.tokensFrom, Except.map]
      cases lexeme.token? <;> rfl
  | cons character following => rfl

private theorem scanFrom_dropWhile_isBlank (line : Nat) (source : List Char) :
    scanFrom line (source.dropWhile Lexeme.isBlank) = scanFrom line source := by
  cases source with
  | nil => rfl
  | cons c rest =>
      cases blank : Lexeme.isBlank c with
      | false => rw [List.dropWhile_cons_of_neg (by simp [blank])]
      | true =>
          rw [List.dropWhile_cons_of_pos blank, scanFrom_of_next? (Lexeme.next?_blank blank rest)]
          exact (congrFun Except.map_id _).symm

private theorem scanFrom_blank
    {c : Char}
    (blank : Lexeme.isBlank c)
    (line : Nat)
    (rest : List Char) :
    scanFrom line (c :: rest) = scanFrom line rest := by
  rw [← scanFrom_dropWhile_isBlank, List.dropWhile_cons_of_pos blank, scanFrom_dropWhile_isBlank]

private theorem scanFrom_newline (line : Nat) (rest : List Char) :
    scanFrom line ('\n' :: rest) = scanFrom (line + 1) rest := by
  rw [scanFrom_of_next? rfl]
  exact congrFun Except.map_id _

private theorem count_newline_of_isBlank {c : Char} (blank : Lexeme.isBlank c) (rest : List Char) :
    (c :: rest).count '\n' = rest.count '\n' := by
  have noNewline : c ≠ '\n' := by
    rintro rfl
    exact absurd blank (by decide)
  exact List.count_cons_of_ne noNewline

/-- A separator has no token and at most moves on to the next line. -/
theorem scanFrom_separator
    {separator : Char}
    (separates : Separates separator)
    (line : Nat)
    (more : List Char) :
    scanFrom line (separator :: more) = scanFrom (line + [separator].count '\n') more := by
  rcases separates with rfl | blank
  · exact scanFrom_newline line more
  · rw [scanFrom_blank blank, count_newline_of_isBlank blank]
    rfl

private theorem map_append_seam
    (taken : List PlacedToken)
    (front behind : Except ScanError (List PlacedToken)) :
    (do return (← front) ++ (← behind)).map (taken ++ ·) =
      do return (← front.map (taken ++ ·)) ++ (← behind) := by
  cases front with
  | error error => rfl
  | ok before =>
      cases behind with
      | error error => rfl
      | ok after => exact congrArg Except.ok (List.append_assoc taken before after).symm

/-- The tokens of `source` are found before `separator` as they are at the end of a text, and then
those of `more`, which starts on the line that is reached. -/
def SplitsAt (separator : Char) (more : List Char) (line : Nat) (source : List Char) : Prop :=
  scanFrom line (source ++ separator :: more) = do
    return (← scanFrom line source) ++
      (← scanFrom (line + (source ++ [separator]).count '\n') more)

section SplitsAt

variable {separator : Char} {more : List Char} {line : Nat}

private theorem splitsAt_nil (separates : Separates separator) :
    SplitsAt separator more line [] := by
  unfold SplitsAt
  rw [List.nil_append, scanFrom_nil, scanFrom_separator separates]
  exact (congrFun Except.map_id _).symm

theorem SplitsAt.blank
    {c : Char}
    {rest : List Char}
    (isBlank : Lexeme.isBlank c)
    (splits : SplitsAt separator more line rest) :
    SplitsAt separator more line (c :: rest) := by
  unfold SplitsAt at splits ⊢
  rw [List.cons_append, scanFrom_blank isBlank, scanFrom_blank isBlank, splits, List.cons_append,
    count_newline_of_isBlank isBlank]

private theorem splitsAt_of_stuck
    {c : Char}
    {rest : List Char}
    (stuck : Lexeme.next? (c :: rest) = none)
    (stuckBefore : Lexeme.next? (c :: (rest ++ separator :: more)) = none) :
    SplitsAt separator more line (c :: rest) := by
  unfold SplitsAt
  rw [scanFrom_of_stuck stuck, List.cons_append, scanFrom_of_stuck stuckBefore]
  rfl

private theorem SplitsAt.of_next?
    {lexeme : Lexeme}
    {source rest : List Char}
    (first : Lexeme.next? source = some (lexeme, rest))
    (firstBefore : Lexeme.next? (source ++ separator :: more) =
      some (lexeme, rest ++ separator :: more))
    (splits : SplitsAt separator more (lexeme.lineAfter line) rest) :
    SplitsAt separator more line source := by
  have reached : line + (source ++ [separator]).count '\n' =
      lexeme.lineAfter line + (rest ++ [separator]).count '\n' := by
    have parts := Lexeme.text_append_of_next? first
    have lines := Lexeme.lineAfter_eq (Lexeme.wellFormed_of_next? first) line
    rw [← parts, List.append_assoc, List.count_append, lines]
    omega
  unfold SplitsAt at splits ⊢
  rw [scanFrom_of_next? firstBefore, scanFrom_of_next? first, splits, reached, map_append_seam]

/-- Every text can be split at a separator.  The induction is on its length: a round of the scanner
takes a lexeme, of which blanks are taken one by one. -/
theorem splitsAt
    (separates : Separates separator)
    (more : List Char)
    (line : Nat)
    (source : List Char) :
    SplitsAt separator more line source := by
  induction size : source.length using Nat.strong_induction_on generalizing line source with
  | _ length inductionHypothesis =>
      cases source with
      | nil => exact splitsAt_nil separates
      | cons c rest =>
          rw [List.length_cons] at size
          cases isBlank : Lexeme.isBlank c with
          | true => exact .blank isBlank (inductionHypothesis rest.length (by omega) line rest rfl)
          | false =>
              have seam := Lexeme.next?_append separates more (List.cons_ne_nil c rest)
                (by simp [isBlank])
              cases first : Lexeme.next? (c :: rest) with
              | none =>
                  rw [first] at seam
                  exact splitsAt_of_stuck first seam
              | some found =>
                  rw [first] at seam
                  have shorter := Lexeme.length_lt_of_next? first
                  rw [List.length_cons, size] at shorter
                  exact .of_next? first seam (inductionHypothesis _ shorter _ _ rfl)

end SplitsAt

private theorem lineAfter_add (lexeme : Lexeme) (line lines : Nat) :
    lexeme.lineAfter (line + lines) = lexeme.lineAfter line + lines := by
  cases lexeme with
  | newline => exact Nat.add_right_comm line lines 1
  | numeral | word | equals | blanks => rfl

private theorem foldl_lineAfter_add (lexemes : List Lexeme) (line lines : Nat) :
    lexemes.foldl Lexeme.lineAfter (line + lines) =
      lexemes.foldl Lexeme.lineAfter line + lines := by
  induction lexemes generalizing line with
  | nil => rfl
  | cons lexeme rest inductionHypothesis =>
      rw [List.foldl_cons, List.foldl_cons, lineAfter_add, inductionHypothesis]

private theorem tokensFrom_add (lexemes : List Lexeme) (line lines : Nat) :
    Lexeme.tokensFrom (line + lines) lexemes =
      (Lexeme.tokensFrom line lexemes).map (PlacedToken.moved lines) := by
  induction lexemes generalizing line with
  | nil => rfl
  | cons lexeme rest inductionHypothesis =>
      simp only [Lexeme.tokensFrom, lineAfter_add, inductionHypothesis]
      cases lexeme.token? <;> rfl

/-- A text that starts further down has the same tokens, or the same error, further down. -/
theorem scanFrom_add (source : List Char) (line lines : Nat) :
    scanFrom (line + lines) source =
      ((scanFrom line source).map (·.map (PlacedToken.moved lines))).mapError
        (ScanError.moved lines) := by
  rw [scanFrom, scanFrom, tokensFrom_add, foldl_lineAfter_add]
  cases (Lexeme.cut source).2 <;> rfl

/-- Tokens are found in the text behind a separator as they are in that text alone. -/
theorem scan_append
    {separator : Char}
    (separates : Separates separator)
    (front behind : String) :
    scan (front ++ String.singleton separator ++ behind) = do
      let lines := (front.toList ++ [separator]).count '\n'
      return (← scan front) ++
        (← ((scan behind).map (·.map (PlacedToken.moved lines))).mapError
          (ScanError.moved lines)) := by
  have characters : (front ++ String.singleton separator ++ behind).toList =
      front.toList ++ separator :: behind.toList := by simp
  have splits := splitsAt separates behind.toList 1 front.toList
  unfold SplitsAt at splits
  rw [scan_eq_scanFrom, scan_eq_scanFrom, scan_eq_scanFrom, characters, splits, scanFrom_add]

/-- Behind a whole line of tokens the rest is scanned as if it stood alone, further down. -/
theorem exists_scan_of_scan_line
    {front behind : String}
    {tokens all : List PlacedToken}
    (scanned : scan front = .ok tokens)
    (scannedAll : scan (front ++ "\n" ++ behind) = .ok all) :
    ∃ others lines, scan behind = .ok others ∧ all = tokens ++ others.map (.moved lines) := by
  have seam := scan_append (.inl rfl : Separates '\n') front behind
  rw [scanned] at seam
  cases scannedBehind : scan behind with
  | error error =>
      rw [scannedBehind] at seam
      cases scannedAll.symm.trans seam
  | ok others =>
      rw [scannedBehind] at seam
      exact ⟨others, _, rfl, Except.ok.inj (scannedAll.symm.trans seam)⟩

end Token

/-! ### Tokens of two programs -/

namespace Grammar

private theorem startsWithTerm_moved (lines : Nat) (tokens : List PlacedToken) :
    startsWithTerm (tokens.map (PlacedToken.moved lines)) = startsWithTerm tokens := by
  cases tokens <;> rfl

/-- A program is read and goes on with the tokens behind it, unless its last statement takes them
for operands. -/
theorem program_append
    {tokens more : List PlacedToken}
    {program : Program}
    (read : Parse.program tokens = .ok program)
    (mayFollow : ∀ last ∈ program.getLast?, MayFollow last more) :
    Parse.program (tokens ++ more) = (Parse.program more).map (program ++ ·) := by
  induction program generalizing tokens with
  | nil =>
      obtain rfl := (program_eq_ok_nil_iff tokens).mp read
      exact (congrFun Except.map_id _).symm
  | cons first rest inductionHypothesis =>
      obtain ⟨left, readFirst, readRest⟩ := (program_eq_ok_cons_iff _ _ _).mp read
      obtain ⟨front, rfl, complete, mayFollowFirst⟩ := complete_of_statement readFirst
      have mayFollowRest : ∀ last ∈ rest.getLast?, MayFollow last more := by
        intro last isLast
        apply mayFollow
        rw [List.getLast?_cons, Option.mem_def.mp isLast]
        rfl
      have mayGoOn : MayFollow first (left ++ more) := by
        by_cases ends : left = []
        · subst ends
          obtain rfl : [] = rest := Except.ok.inj (program_nil.symm.trans readRest)
          exact mayFollow first rfl
        · exact mayFollowFirst.append ends more
      rw [List.append_assoc, complete.program_append mayGoOn,
        inductionHypothesis readRest mayFollowRest]
      cases Parse.program more <;> rfl

private theorem exists_program_of_append
    {tokens more : List PlacedToken}
    {program all : Program}
    (read : Parse.program tokens = .ok program)
    (mayFollow : ∀ last ∈ program.getLast?, MayFollow last more)
    (readAll : Parse.program (tokens ++ more) = .ok all) :
    ∃ others, Parse.program more = .ok others ∧ all = program ++ others := by
  rw [program_append read mayFollow] at readAll
  cases readMore : Parse.program more with
  | error error =>
      rw [readMore] at readAll
      cases readAll
  | ok others =>
      rw [readMore] at readAll
      exact ⟨others, rfl, (Except.ok.inj readAll).symm⟩

end Grammar

/-! ### Runs of two scripts -/

namespace Machine

/-- What was printed and written for the first part of a program stays, and the rest follows it. -/
theorem prefixes_of_executeAll_append
    {machine later last : Machine Listing}
    {first second : Program}
    {printed all : List Number}
    (executed : machine.executeAll Listing.emitter first = (.ok printed, later))
    (executedAll : machine.executeAll Listing.emitter (first ++ second) = (.ok all, last)) :
    printed <+: all ∧
    later.emitted.threeAddress <+: last.emitted.threeAddress ∧
    later.emitted.assembly <+: last.emitted.assembly := by
  rw [executeAll_append, executed] at executedAll
  obtain ⟨sameResult, sameMachine⟩ := Prod.mk.inj executedAll
  have listings := listing_prefix_afterCall later (.executeAll second)
  rw [afterCall, sameMachine] at listings
  refine ⟨?_, listings⟩
  cases outcome : (later.executeAll Listing.emitter second).1 with
  | error error =>
      rw [outcome] at sameResult
      cases sameResult
  | ok further =>
      rw [outcome] at sameResult
      have together : printed ++ further = all := Except.ok.inj sameResult
      rw [← together]
      exact List.prefix_append printed further

end Machine

/-- **A run is stable under continuation.**  When a script succeeds, and still does with more lines
behind it, then its tokens, its statements, the lines of its listings and the lines of its output
are the first ones of the longer script.  The second part must not start with a term, or the first
must not end with an operation that takes such a term for an operand. -/
theorem run_prefix_stable
    {first more : String}
    {compilation whole : Compilation}
    (succeeds : run first = .ok compilation)
    (succeedsWhole : run (first ++ "\n" ++ more) = .ok whole)
    (separate :
      (∀ tokens, Token.scan more = .ok tokens → ¬ startsWithTerm tokens) ∨
        ∀ last ∈ compilation.program.getLast?, ¬ last.value.isOperation) :
    compilation.tokens <+: whole.tokens ∧
    compilation.program <+: whole.program ∧
    textLines compilation.threeAddress <+: textLines whole.threeAddress ∧
    textLines compilation.assembly <+: textLines whole.assembly ∧
    textLines compilation.output <+: textLines whole.output := by
  obtain ⟨scanned, read, -, printed, machine, executed, output, threeAddress, assembly⟩ :=
    (run_eq_ok_iff _ _).mp succeeds
  obtain ⟨scannedWhole, readWhole, -, all, last, executedWhole, outputWhole, threeAddressWhole,
    assemblyWhole⟩ := (run_eq_ok_iff _ _).mp succeedsWhole
  obtain ⟨others, lines, scannedMore, tokensWhole⟩ :=
    Token.exists_scan_of_scan_line scanned scannedWhole
  have mayFollow : ∀ final ∈ compilation.program.getLast?,
      Grammar.MayFollow final (others.map (.moved lines)) := by
    intro final isFinal operation
    rcases separate with noTerm | noOperation
    · rw [Grammar.startsWithTerm_moved]
      exact noTerm others scannedMore
    · exact absurd operation (noOperation final isFinal)
  rw [tokensWhole] at readWhole
  obtain ⟨statements, -, programWhole⟩ :=
    Grammar.exists_program_of_append read mayFollow readWhole
  rw [programWhole] at executedWhole
  obtain ⟨printedStarts, threeAddressStarts, assemblyStarts⟩ :=
    Machine.prefixes_of_executeAll_append executed executedWhole
  refine ⟨?_, ?_, ?_, ?_, ?_⟩
  · exact ⟨_, tokensWhole.symm⟩
  · exact ⟨_, programWhole.symm⟩
  · rw [threeAddress, threeAddressWhole]
    exact textLines_prefix_of_prefix threeAddressStarts
  · rw [assembly, assemblyWhole]
    exact textLines_prefix_of_prefix assemblyStarts
  · rw [output, outputWhole]
    exact textLines_prefix_of_prefix (printedStarts.map Number.text)

/-- The first script ends with an operation, and `PRINT` keeps the second apart from it. -/
theorem run_prefix_stable_sum :
    ∃ compilation whole,
      run "VAR x = ADD 1 2" = .ok compilation ∧
      run ("VAR x = ADD 1 2" ++ "\n" ++ "PRINT x") = .ok whole ∧
      Token.scan "PRINT x" = .ok [⟨.print, 1⟩, ⟨.identifier "x", 1⟩] ∧
      compilation.tokens <+: whole.tokens ∧
      compilation.program <+: whole.program ∧
      textLines compilation.threeAddress <+: textLines whole.threeAddress ∧
      textLines compilation.assembly <+: textLines whole.assembly ∧
      textLines compilation.output <+: textLines whole.output := by
  have succeeds : run "VAR x = ADD 1 2" = .ok {
      tokens := [⟨.var, 1⟩, ⟨.identifier "x", 1⟩, ⟨.assign, 1⟩, ⟨.operator (.fold .add), 1⟩,
        ⟨.number (.integer 1), 1⟩, ⟨.number (.integer 2), 1⟩]
      program := [.declare "x" (.operation (.fold .add)
        [.number (.integer 1) 1, .number (.integer 2) 1] 1) 1]
      output := ""
      threeAddress := "T1 = T1 + 2\nx = 3"
      assembly := "ADD T1, T1, 2\nMOV x, 3" } := by
    decide +kernel
  have succeedsWhole : run ("VAR x = ADD 1 2" ++ "\n" ++ "PRINT x") = .ok {
      tokens := [⟨.var, 1⟩, ⟨.identifier "x", 1⟩, ⟨.assign, 1⟩, ⟨.operator (.fold .add), 1⟩,
        ⟨.number (.integer 1), 1⟩, ⟨.number (.integer 2), 1⟩, ⟨.print, 2⟩, ⟨.identifier "x", 2⟩]
      program := [.declare "x" (.operation (.fold .add)
        [.number (.integer 1) 1, .number (.integer 2) 1] 1) 1, .print (.identifier "x" 2) 2]
      output := "3"
      threeAddress := "T1 = T1 + 2\nx = 3\nT2 = 3"
      assembly := "ADD T1, T1, 2\nMOV x, 3\nMOV T2, 3\nOUT T2" } := by
    decide +kernel
  have scanned : Token.scan "PRINT x" = .ok [⟨.print, 1⟩, ⟨.identifier "x", 1⟩] := by
    decide +kernel
  have noTerm : ∀ tokens, Token.scan "PRINT x" = .ok tokens → ¬ startsWithTerm tokens := by
    intro tokens scannedToo
    rw [scanned] at scannedToo
    cases scannedToo
    decide
  exact ⟨_, _, succeeds, succeedsWhole, scanned,
    run_prefix_stable succeeds succeedsWhole (.inl noTerm)⟩

end Reckoner
