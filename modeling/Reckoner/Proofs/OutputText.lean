import Reckoner.Proofs.Effects
import Reckoner.Proofs.NumberText

/-!
Contract: texts that are lists of lines, and the output of a program as one of them.

Output and listings are joined to one text each.  When lines are added at the end of a list, the
lines of its text stay and others follow.  A printed number has a text that is not empty and stays
on one line.  So the output of a program is empty only when the program prints nothing, and its
lines are the texts of the printed numbers.

Owns: the lines of a text, and the number of values that a program prints.

Does not own: the text of a single number or instruction.
-/

namespace Reckoner

/-! ### Lines of a text -/

/-- The lines of a text.  The empty text has none. -/
def textLines (text : String) : List String :=
  if text = "" then [] else (text.toList.splitOn '\n').map String.ofList

/-- A line break and what follows it leave the lines before it alone. -/
theorem textLines_prefix_append (text more : String) :
    textLines text <+: textLines (text ++ "\n" ++ more) := by
  by_cases empty : text = ""
  · rw [textLines, if_pos empty]
    exact List.nil_prefix
  · have nonempty : text ++ "\n" ++ more ≠ "" := by simp
    have characters : (text ++ "\n" ++ more).toList = text.toList ++ '\n' :: more.toList := by simp
    have split : (text.toList ++ '\n' :: more.toList).splitOn '\n' =
        text.toList.splitOn '\n' ++ more.toList.splitOn '\n' :=
      List.splitOnP_append_cons _ _ (beq_self_eq_true '\n')
    rw [textLines, textLines, if_neg empty, if_neg nonempty, characters, split, List.map_append]
    exact List.prefix_append _ _

theorem textLines_prefix_of_prefix
    {first longer : List String}
    (starts : first <+: longer) :
    textLines ("\n".intercalate first) <+: textLines ("\n".intercalate longer) := by
  obtain ⟨more, rfl⟩ := starts
  by_cases nothing : first = []
  · rw [nothing, String.intercalate_nil, textLines, if_pos rfl]
    exact List.nil_prefix
  · by_cases noMore : more = []
    · simp [noMore]
    · rw [String.intercalate_append_of_ne_nil nothing noMore]
      exact textLines_prefix_append _ _

/-! ### The output of a program -/

def Statement.isPrint : Statement → Bool
  | .print .. => true
  | .declare .. | .assign .. => false

namespace Machine

/-- Print statements return a value, and no other statements do. -/
theorem isSome_of_execute
    {σ : Type}
    {emitter : Emitter σ}
    {machine later : Machine σ}
    {statement : Statement}
    {returned : Option Number}
    (executed : machine.execute emitter statement = (.ok returned, later)) :
    returned.isSome = statement.isPrint := by
  obtain ⟨value, evaluated, -, rfl, -⟩ := (execute_eq_ok_iff _ _ _ _ _).mp executed
  cases statement <;> rfl

/-- There is one value for each print statement. -/
theorem length_printed
    {σ : Type}
    {emitter : Emitter σ}
    {machine later : Machine σ}
    {program : Program}
    {printed : List Number}
    (executed : machine.executeAll emitter program = (.ok printed, later)) :
    printed.length = program.countP Statement.isPrint := by
  induction program generalizing machine printed with
  | nil =>
      have none : [] = printed := Except.ok.inj (Prod.mk.inj executed).1
      rw [← none, List.length_nil, List.countP_nil]
  | cons statement rest inductionHypothesis =>
      obtain ⟨value, middle, others, first, behind, rfl⟩ :=
        (executeAll_cons_eq_ok_iff _ _ _ _ _ _).mp executed
      rw [List.length_append, inductionHypothesis behind, List.countP_cons,
        ← isSome_of_execute first]
      cases value <;> simp [Nat.add_comm]

/-- No number has an empty text, so the output is empty only if nothing was printed. -/
theorem outputText_eq_empty_iff (printed : List Number) : outputText printed = "" ↔ printed = [] := by
  constructor
  · intro empty
    cases printed with
    | nil => rfl
    | cons first rest =>
        have characters := congrArg String.toList empty
        have someCharacter : first.text.toList ≠ [] := by simpa using first.text_ne_empty
        rw [outputText, String.toList_intercalate, List.map_cons, List.map_cons] at characters
        cases rest with
        | nil => simp [someCharacter] at characters
        | cons second others => simp at characters
  · rintro rfl
    rfl

/-- The lines of an output are the texts of the printed numbers. -/
theorem textLines_outputText (printed : List Number) :
    textLines (outputText printed) = printed.map Number.text := by
  by_cases nothing : printed = []
  · subst nothing
    rfl
  · have nonempty : outputText printed ≠ "" :=
      fun empty => nothing ((outputText_eq_empty_iff printed).mp empty)
    have characters : (outputText printed).toList =
        ['\n'].intercalate ((printed.map Number.text).map String.toList) :=
      String.toList_intercalate
    have unbroken : ∀ line ∈ (printed.map Number.text).map String.toList, '\n' ∉ line := by
      simp [newline_notMem_text]
    rw [textLines, if_neg nonempty, characters,
      List.splitOn_intercalate '\n' unbroken (by simpa using nothing)]
    simp

/-- The output of a program is empty exactly when the program has no print statement. -/
theorem outputText_eq_empty_iff_noPrint
    {σ : Type}
    {emitter : Emitter σ}
    {machine later : Machine σ}
    {program : Program}
    {printed : List Number}
    (executed : machine.executeAll emitter program = (.ok printed, later)) :
    outputText printed = "" ↔ program.any Statement.isPrint = false := by
  rw [outputText_eq_empty_iff, ← List.length_eq_zero_iff, length_printed executed,
    List.countP_eq_zero, List.any_eq_false]

end Machine

end Reckoner
