import Reckoner.Proofs.Pattern
import Reckoner.Token.Scan

/-!
Contract: reading tokens is longest-match scanning of the patterns.

A text is cut into pieces from the left.  Each piece is the longest prefix of the remaining text
that matches a pattern, and the cut ends where no pattern matches.  The pieces alone give the tokens
and, through the line breaks before them, the lines.

Owns: pieces, the cut of a text by longest matches, the token of a piece, the agreement of the
scanner with all of them, and the characters of identifiers.

Does not own: the value of a numeral from its digits.
-/

namespace Reckoner

namespace Pattern

/-! ### Pieces and their tokens -/

/-- A stretch of text that was matched by the pattern of a shape. -/
structure Piece where
  shape : Shape
  text : List Char
deriving DecidableEq

def keywords : List (String × Token) :=
  [("VAR", .var), ("PRINT", .print),
    ("ADD", .operator (.fold .add)), ("SUB", .operator (.fold .sub)),
    ("MUL", .operator (.fold .mul)), ("DIV", .operator (.fold .div)),
    ("MOD", .operator (.fold .mod)), ("POW", .operator (.fold .pow)),
    ("LOG", .operator (.function .log)), ("SIN", .operator (.function .sin)),
    ("COS", .operator (.function .cos)), ("TAN", .operator (.function .tan))]

/-- A keyword if the whole word is one, and otherwise an identifier with the text of the word. -/
def wordToken (word : String) : Token :=
  (keywords.lookup word).getD (.identifier word)

/-- The value of a numeral, read off the text: the sign, the digits up to the point, and the digits
behind it. -/
def numeralValue (text : List Char) : Number :=
  Number.ofNumeral (text.head? == some '-')
    ((text.dropWhile (· == '-')).takeWhile (· != '.'))
    ((text.dropWhile (· == '-')).dropWhile (· != '.')).tail

/-- The token of a piece; line breaks and blanks have none. -/
def Piece.token? : Piece → Option Token
  | ⟨.numeral, text⟩ => some (.number (numeralValue text))
  | ⟨.word, letters⟩ => some (wordToken (String.ofList letters))
  | ⟨.equals, _⟩ => some .assign
  | ⟨.newline, _⟩ | ⟨.blanks, _⟩ => none

/-- The line behind a text that starts on line one. -/
def lineBehind (before : List Char) : Nat :=
  1 + before.count '\n'

/-- The tokens of pieces that stand behind `before`, each with its line. -/
def tokensBehind (before : List Char) : List Piece → List PlacedToken
  | [] => []
  | piece :: rest =>
      (piece.token?.map fun token => ⟨token, lineBehind before⟩).toList ++
        tokensBehind (before ++ piece.text) rest

/-! ### The cut of a text -/

/-- A piece is the longest nonempty prefix of a text that matches a pattern. -/
structure LongestMatch (source : List Char) (piece : Piece) : Prop where
  nonempty : piece.text ≠ []
  starts : piece.text <+: source
  fits : piece.text ∈ ofShape piece.shape
  longest : ∀ text shape, text <+: source → text ∈ ofShape shape → text.length ≤ piece.text.length

/-- No nonempty prefix of a text matches a pattern. -/
def NoMatch (source : List Char) : Prop :=
  ∀ text shape, text ≠ [] → text <+: source → text ∉ ofShape shape

/-- Longest matches are cut off a text one after the other, until there is none. -/
inductive Cut : List Char → List Piece → List Char → Prop where
  | stop {source : List Char} (noMatch : NoMatch source) : Cut source [] source
  | piece {piece : Piece} {rest : List Char} {pieces : List Piece} {remainder : List Char}
      (longest : LongestMatch (piece.text ++ rest) piece)
      (others : Cut rest pieces remainder) :
      Cut (piece.text ++ rest) (piece :: pieces) remainder

end Pattern

open Pattern (Piece LongestMatch NoMatch Cut lineBehind tokensBehind)

namespace Lexeme

def piece (lexeme : Lexeme) : Piece :=
  ⟨lexeme.shape, lexeme.text⟩

theorem text_mem_ofShape {lexeme : Lexeme} (wellFormed : lexeme.WellFormed) :
    lexeme.text ∈ Pattern.ofShape lexeme.shape :=
  (mem_ofShape_iff _ _).mpr ⟨lexeme, wellFormed, rfl, rfl⟩

/-- Whatever matches at the start of a text is no longer than the first lexeme. -/
theorem exists_next?_of_mem
    {source text : List Char}
    {shape : Pattern.Shape}
    (starts : text <+: source)
    (fits : text ∈ Pattern.ofShape shape) :
    ∃ lexeme rest,
      next? source = some (lexeme, rest) ∧ lexeme.shape = shape ∧
      text.length ≤ lexeme.text.length := by
  obtain ⟨suffix, rfl⟩ := starts
  obtain ⟨candidate, wellFormed, rfl, rfl⟩ := (mem_ofShape_iff _ _).mp fits
  exact next?_reaches wellFormed suffix

/-- What the scanner cuts off is a longest match. -/
theorem longestMatch_of_next?
    {source rest : List Char}
    {lexeme : Lexeme}
    (cut : next? source = some (lexeme, rest)) :
    LongestMatch source lexeme.piece where
  nonempty := text_ne_nil_of_next? cut
  starts := ⟨rest, text_append_of_next? cut⟩
  fits := text_mem_ofShape (wellFormed_of_next? cut)
  longest := by
    intro text shape starts fits
    obtain ⟨found, left, foundCut, -, bound⟩ := exists_next?_of_mem starts fits
    rw [cut] at foundCut
    cases foundCut
    exact bound

/-- The scanner cuts off the longest match, so there are no two. -/
theorem next?_of_longestMatch
    {piece : Piece}
    {rest : List Char}
    (longest : LongestMatch (piece.text ++ rest) piece) :
    ∃ lexeme : Lexeme, next? (piece.text ++ rest) = some (lexeme, rest) ∧ lexeme.piece = piece := by
  obtain ⟨lexeme, left, cut, sameShape, bound⟩ := exists_next?_of_mem longest.starts longest.fits
  have parts := text_append_of_next? cut
  have noLonger := longest.longest lexeme.text lexeme.shape ⟨left, parts⟩
    (text_mem_ofShape (wellFormed_of_next? cut))
  -- Two prefixes of one text that are equally long are the same.
  obtain ⟨sameText, rfl⟩ := List.append_inj parts (le_antisymm noLonger bound)
  refine ⟨lexeme, cut, ?_⟩
  rw [Lexeme.piece, sameShape, sameText]

/-- The scanner is stuck exactly where no pattern matches. -/
theorem noMatch_iff_next?_eq_none (source : List Char) :
    NoMatch source ↔ next? source = none := by
  constructor
  · intro noMatch
    cases cut : next? source with
    | none => rfl
    | some found =>
        have longest := longestMatch_of_next? cut
        exact absurd longest.fits (noMatch _ _ longest.nonempty longest.starts)
  · intro stuck text shape nonempty starts fits
    obtain ⟨lexeme, rest, cut, -⟩ := exists_next?_of_mem starts fits
    rw [stuck] at cut
    cases cut

theorem cut_of_next?_eq_none {source : List Char} (stuck : next? source = none) :
    cut source = ([], source) := by
  rw [cut]
  split
  · rfl
  · simp_all

theorem cut_of_next?
    {source rest : List Char}
    {lexeme : Lexeme}
    (first : next? source = some (lexeme, rest)) :
    cut source = (lexeme :: (cut rest).1, (cut rest).2) := by
  rw [cut]
  split
  · simp_all
  · rename_i found following isFirst
    rw [first] at isFirst
    cases isFirst
    rfl

theorem cut_pieces (source : List Char) :
    Cut source ((cut source).1.map piece) (cut source).2 := by
  induction source using cut.induct with
  | case1 source stuck =>
      rw [cut_of_next?_eq_none stuck]
      exact .stop ((noMatch_iff_next?_eq_none source).mpr stuck)
  | case2 source lexeme rest first lexemes remainder others inductionHypothesis =>
      have longest := longestMatch_of_next? first
      have parts : lexeme.piece.text ++ rest = source := text_append_of_next? first
      rw [cut_of_next? first, List.map_cons]
      rw [← parts] at longest ⊢
      exact .piece longest inductionHypothesis

/-- The scanner's cut is the only cut by longest matches. -/
theorem cut_iff (source : List Char) (pieces : List Piece) (remainder : List Char) :
    Cut source pieces remainder ↔
      (cut source).1.map piece = pieces ∧ (cut source).2 = remainder := by
  constructor
  · intro isCut
    induction isCut with
    | stop noMatch =>
        rw [cut_of_next?_eq_none ((noMatch_iff_next?_eq_none _).mp noMatch)]
        exact ⟨rfl, rfl⟩
    | piece longest others inductionHypothesis =>
        obtain ⟨lexeme, first, rfl⟩ := next?_of_longestMatch longest
        obtain ⟨samePieces, sameRemainder⟩ := inductionHypothesis
        rw [cut_of_next? first, List.map_cons, samePieces]
        exact ⟨rfl, sameRemainder⟩
  · rintro ⟨rfl, rfl⟩
    exact cut_pieces source

/-! ### The tokens of the cut -/

theorem wellFormed_of_mem_cut (source : List Char) :
    ∀ lexeme ∈ (cut source).1, lexeme.WellFormed := by
  induction source using cut.induct with
  | case1 source stuck => simp [cut_of_next?_eq_none stuck]
  | case2 source lexeme rest first lexemes remainder others inductionHypothesis =>
      rw [cut_of_next? first]
      exact List.forall_mem_cons.mpr ⟨wellFormed_of_next? first, inductionHypothesis⟩

theorem minus_opens_numeral
    (negative : Bool)
    {whole fraction : List Char}
    (wellFormed : (numeral negative whole fraction).WellFormed) :
    ((numeral negative whole fraction).text.head? == some '-') = negative := by
  obtain ⟨nonempty, wholeDigits, -⟩ := wellFormed
  obtain ⟨first, others, rfl⟩ := List.exists_cons_of_ne_nil nonempty
  have noMinus : first ≠ '-' := by
    rintro rfl
    exact absurd (wholeDigits '-' List.mem_cons_self) (by decide)
  cases negative <;> simp [text, noMinus]

private theorem numeralValue_text
    (negative : Bool)
    {whole fraction : List Char}
    (wellFormed : (numeral negative whole fraction).WellFormed) :
    Pattern.numeralValue (numeral negative whole fraction).text =
      Number.ofNumeral negative whole fraction := by
  have sign := minus_opens_numeral negative wellFormed
  obtain ⟨nonempty, wholeDigits, -⟩ := wellFormed
  obtain ⟨first, others, rfl⟩ := List.exists_cons_of_ne_nil nonempty
  have noMinus : first ≠ '-' := by
    rintro rfl
    exact absurd (wholeDigits '-' List.mem_cons_self) (by decide)
  have noPoint : ∀ c ∈ first :: others, (c != '.') = true := by
    intro c member
    rw [bne_iff_ne]
    rintro rfl
    exact absurd (wholeDigits '.' member) (by decide)
  have unsigned : (numeral negative (first :: others) fraction).text.dropWhile (· == '-') =
      (first :: others) ++ if fraction.isEmpty then [] else '.' :: fraction := by
    cases negative <;> simp [text, noMinus]
  rw [Pattern.numeralValue, sign, unsigned, List.takeWhile_append_of_pos noPoint,
    List.dropWhile_append_of_pos noPoint]
  cases fraction <;> simp

private theorem lookup_operators (word : String) (operators : List Operator) :
    (operators.map fun operator => (operator.keyword, Token.operator operator)).lookup word =
      (operators.find? fun operator => operator.keyword = word).map Token.operator := by
  induction operators with
  | nil => rfl
  | cons operator rest inductionHypothesis =>
      by_cases found : operator.keyword = word
      · subst found
        simp
      · have different : (word == operator.keyword) = false := beq_false_of_ne (Ne.symm found)
        rw [List.map_cons, List.lookup_cons, different,
          List.find?_cons_of_neg (by simpa using found)]
        exact inductionHypothesis

theorem wordToken_eq (word : String) : Pattern.wordToken word = Token.ofWord word := by
  have table : Pattern.keywords = ("VAR", .var) :: ("PRINT", .print) ::
      Operator.all.map fun operator => (operator.keyword, Token.operator operator) := rfl
  rw [Pattern.wordToken, table, List.lookup_cons, List.lookup_cons, lookup_operators, Token.ofWord]
  by_cases isVar : word = "VAR"
  · simp [isVar]
  · by_cases isPrint : word = "PRINT"
    · simp [isPrint]
    · rw [if_neg isVar, if_neg isPrint, beq_false_of_ne isVar, beq_false_of_ne isPrint]
      change (Option.map Token.operator (Operator.ofKeyword? word)).getD _ = _
      cases Operator.ofKeyword? word <;> rfl

/-- The token of a lexeme can be told from its shape and its text alone. -/
theorem token?_piece {lexeme : Lexeme} (wellFormed : lexeme.WellFormed) :
    lexeme.piece.token? = lexeme.token? := by
  cases lexeme with
  | numeral negative whole fraction =>
      simp only [piece, shape, Piece.token?, token?, numeralValue_text negative wellFormed]
  | word letters => simp only [piece, shape, Piece.token?, token?, text, wordToken_eq]
  | equals | newline | blanks spaces => rfl

theorem newline_notMem_text
    {lexeme : Lexeme}
    (wellFormed : lexeme.WellFormed)
    (noNewline : lexeme.shape ≠ .newline) :
    '\n' ∉ lexeme.text := by
  cases lexeme with
  | numeral negative whole fraction =>
      obtain ⟨-, wholeDigits, fractionDigits⟩ := wellFormed
      have notWhole : '\n' ∉ whole := fun member => absurd (wholeDigits _ member) (by decide)
      have notFraction : '\n' ∉ fraction :=
        fun member => absurd (fractionDigits _ member) (by decide)
      cases negative <;> cases fraction <;> simp_all [text]
  | word letters =>
      obtain ⟨first, rest, rfl, starts, continues⟩ := wellFormed
      intro member
      rcases List.mem_cons.mp member with isFirst | inRest
      · rw [← isFirst] at starts
        exact absurd starts (by decide)
      · exact absurd (continues _ inRest) (by decide)
  | equals => decide
  | newline => exact absurd rfl noNewline
  | blanks spaces => exact fun member => absurd (wellFormed.2 _ member) (by decide)

/-- Lines are counted by line breaks. -/
theorem lineAfter_eq {lexeme : Lexeme} (wellFormed : lexeme.WellFormed) (line : Nat) :
    lexeme.lineAfter line = line + lexeme.text.count '\n' := by
  by_cases isNewline : lexeme.shape = .newline
  · cases lexeme <;> simp_all [shape, lineAfter, text]
  · rw [List.count_eq_zero.mpr (newline_notMem_text wellFormed isNewline)]
    cases lexeme <;> simp_all [shape, lineAfter]

private theorem lineAfter_lineBehind
    {lexeme : Lexeme}
    (wellFormed : lexeme.WellFormed)
    (before : List Char) :
    lexeme.lineAfter (lineBehind before) = lineBehind (before ++ lexeme.text) := by
  rw [lineAfter_eq wellFormed, lineBehind, lineBehind, List.count_append]
  omega

private theorem tokensFrom_eq
    {lexemes : List Lexeme}
    (wellFormed : ∀ lexeme ∈ lexemes, lexeme.WellFormed)
    (before : List Char) :
    tokensFrom (lineBehind before) lexemes = tokensBehind before (lexemes.map piece) := by
  induction lexemes generalizing before with
  | nil => rfl
  | cons lexeme rest inductionHypothesis =>
      obtain ⟨first, others⟩ := List.forall_mem_cons.mp wellFormed
      rw [tokensFrom, List.map_cons, tokensBehind, token?_piece first,
        lineAfter_lineBehind first, inductionHypothesis others (before ++ lexeme.text)]
      cases lexeme.token? <;> rfl

theorem foldl_lineAfter_eq
    {lexemes : List Lexeme}
    (wellFormed : ∀ lexeme ∈ lexemes, lexeme.WellFormed)
    (before : List Char) :
    lexemes.foldl lineAfter (lineBehind before) =
      lineBehind (before ++ (lexemes.map piece).flatMap Piece.text) := by
  induction lexemes generalizing before with
  | nil => simp
  | cons lexeme rest inductionHypothesis =>
      obtain ⟨first, others⟩ := List.forall_mem_cons.mp wellFormed
      rw [List.foldl_cons, lineAfter_lineBehind first,
        inductionHypothesis others (before ++ lexeme.text), List.map_cons, List.flatMap_cons,
        List.append_assoc]
      rfl

end Lexeme

namespace Token

theorem tokensFrom_of_scan
    {source : String}
    {tokens : List PlacedToken}
    (scanned : scan source = .ok tokens) :
    tokens = Lexeme.tokensFrom 1 (Lexeme.cut source.toList).1 := by
  unfold scan scanCharacters at scanned
  cases remainder : (Lexeme.cut source.toList).2 with
  | nil =>
      simp only [remainder] at scanned
      exact (Except.ok.inj scanned).symm
  | cons character following =>
      simp only [remainder] at scanned
      cases scanned

/-- Scanning succeeds exactly if the lexemes use up the text. -/
theorem scanCharacters_eq_ok_iff (source : List Char) (tokens : List PlacedToken) :
    scanCharacters source = .ok tokens ↔
      (Lexeme.cut source).2 = [] ∧
      tokensBehind [] ((Lexeme.cut source).1.map Lexeme.piece) = tokens := by
  rw [← Lexeme.tokensFrom_eq (Lexeme.wellFormed_of_mem_cut source), scanCharacters]
  cases Lexeme.cut source with
  | mk lexemes remainder => cases remainder <;> simp [lineBehind]

/-- An error names the first character that no lexeme takes, and its line. -/
theorem scanCharacters_eq_error_iff (source : List Char) (character : Char) (line : Nat) :
    scanCharacters source = .error (.unexpectedCharacter character line) ↔
      (Lexeme.cut source).2.head? = some character ∧
      lineBehind (((Lexeme.cut source).1.map Lexeme.piece).flatMap Piece.text) = line := by
  have lines := Lexeme.foldl_lineAfter_eq (Lexeme.wellFormed_of_mem_cut source) []
  rw [List.nil_append] at lines
  rw [← lines, scanCharacters]
  cases Lexeme.cut source with
  | mk lexemes remainder => cases remainder <;> simp [lineBehind]

private theorem exists_lexeme_of_mem_tokensFrom
    {lexemes : List Lexeme}
    {line : Nat}
    {placed : PlacedToken}
    (member : placed ∈ Lexeme.tokensFrom line lexemes) :
    ∃ lexeme ∈ lexemes, lexeme.token? = some placed.token := by
  induction lexemes generalizing line with
  | nil => cases member
  | cons lexeme rest inductionHypothesis =>
      rw [Lexeme.tokensFrom] at member
      cases token : lexeme.token? with
      | none =>
          rw [token] at member
          obtain ⟨found, inRest, isToken⟩ := inductionHypothesis member
          exact ⟨found, List.mem_cons_of_mem _ inRest, isToken⟩
      | some first =>
          rw [token] at member
          rcases List.mem_cons.mp member with rfl | inRest
          · exact ⟨lexeme, List.mem_cons_self, token⟩
          · obtain ⟨found, inRest, isToken⟩ := inductionHypothesis inRest
            exact ⟨found, List.mem_cons_of_mem _ inRest, isToken⟩

private theorem eq_of_ofWord {word name : String} (isName : ofWord word = .identifier name) :
    word = name := by
  unfold ofWord at isName
  split at isName
  · cases isName
  · split at isName
    · cases isName
    · split at isName
      · cases isName
      · exact Token.identifier.inj isName

/-- The identifiers of a script are made of letters, digits and underscores. -/
theorem continuesWord_of_scan
    {source name : String}
    {tokens : List PlacedToken}
    (scanned : scan source = .ok tokens)
    (member : .identifier name ∈ tokens.map PlacedToken.token) :
    ∀ c ∈ name.toList, Lexeme.continuesWord c := by
  obtain ⟨placed, isPlaced, isName⟩ := List.mem_map.mp member
  rw [tokensFrom_of_scan scanned] at isPlaced
  obtain ⟨lexeme, isLexeme, isToken⟩ := exists_lexeme_of_mem_tokensFrom isPlaced
  have wellFormed := Lexeme.wellFormed_of_mem_cut source.toList lexeme isLexeme
  rw [isName] at isToken
  cases lexeme with
  | word letters =>
      obtain rfl := eq_of_ofWord (Option.some.inj isToken)
      obtain ⟨first, rest, rfl, starts, continues⟩ := wellFormed
      have firstContinues : Lexeme.continuesWord first := by
        simp only [Lexeme.startsWord, Lexeme.continuesWord, Char.isAlphanum, Bool.or_eq_true]
          at starts ⊢
        tauto
      rw [String.toList_ofList]
      exact List.forall_mem_cons.mpr ⟨firstContinues, continues⟩
  | numeral negative whole fraction | equals | newline | blanks spaces => cases isToken

/-- **Reading tokens is longest-match scanning.**  Every text is cut by longest matches.  The tokens
of a script are those of the pieces into which its whole text is cut, each on the line after the
line breaks before it.  When a remainder is left, the error names its first character and the line
on which it stands. -/
theorem scan_iff_cut (source : String) :
    (∃ pieces remainder, Cut source.toList pieces remainder) ∧
    (∀ tokens, scan source = .ok tokens ↔
      ∃ pieces, Cut source.toList pieces [] ∧ tokens = tokensBehind [] pieces) ∧
    (∀ character line, scan source = .error (.unexpectedCharacter character line) ↔
      ∃ pieces rest, Cut source.toList pieces (character :: rest) ∧
        line = lineBehind (pieces.flatMap Piece.text)) := by
  refine ⟨⟨_, _, Lexeme.cut_pieces source.toList⟩, ?_, ?_⟩
  · intro tokens
    rw [scan, scanCharacters_eq_ok_iff]
    constructor
    · rintro ⟨nothingLeft, rfl⟩
      exact ⟨_, (Lexeme.cut_iff _ _ _).mpr ⟨rfl, nothingLeft⟩, rfl⟩
    · rintro ⟨pieces, isCut, rfl⟩
      obtain ⟨rfl, nothingLeft⟩ := (Lexeme.cut_iff _ _ _).mp isCut
      exact ⟨nothingLeft, rfl⟩
  · intro character line
    rw [scan, scanCharacters_eq_error_iff]
    constructor
    · rintro ⟨isHead, rfl⟩
      obtain ⟨rest, remainder⟩ := List.head?_eq_some_iff.mp isHead
      exact ⟨_, rest, (Lexeme.cut_iff _ _ _).mpr ⟨rfl, remainder⟩, rfl⟩
    · rintro ⟨pieces, rest, isCut, rfl⟩
      obtain ⟨rfl, remainder⟩ := (Lexeme.cut_iff _ _ _).mp isCut
      exact ⟨by rw [remainder, List.head?_cons], rfl⟩

end Token

end Reckoner
