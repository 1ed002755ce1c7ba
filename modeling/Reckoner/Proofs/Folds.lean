import Mathlib.Data.List.Forall2
import Reckoner.Proofs.Causes
import Reckoner.Proofs.Dependence
import Reckoner.Proofs.Frame
import Reckoner.Proofs.IntegerSteps

/-!
Contract: the value of a fold.

A fold takes the values of its operands from the left.  Sums, differences and products of integers
stay integers as long as every result on the way is one of 64 bits, and are then exact.  The first
result that is not makes the fold go on with reals, and from there it never comes back, even where
the exact result would fit again.

Owns: the running results of a fold, exact folds of integers, the values of operands that are
evaluated one by one, and the machine behind the operands and behind the fold.

Does not own: operands that fail.
-/

namespace Reckoner

namespace Number

/-! ### Running results -/

/-- The running result of a fold behind the given operands, or the error of the first step that
fails. -/
def foldFrom (operator : FoldOperator) (line : Nat) (start : Number) (operands : List Number) :
    Except EvalError Number :=
  operands.foldlM (fun result operand => result.apply (.fold operator) operand line) start

/-- The operands that a fold combines into its running result: all of them, or those before the
first step that fails. -/
def combined (operator : FoldOperator) (line : Nat) : Number → List Number → List Number
  | _, [] => []
  | result, operand :: rest =>
      match result.apply (.fold operator) operand line with
      | .ok next => operand :: combined operator line next rest
      | .error _ => []

section

variable {operator : FoldOperator} {line : Nat}

private theorem foldFrom_cons_of_ok
    {start operand next : Number}
    (applied : start.apply (.fold operator) operand line = .ok next)
    (rest : List Number) :
    start.foldFrom operator line (operand :: rest) = next.foldFrom operator line rest := by
  rw [foldFrom, List.foldlM_cons, applied]
  rfl

theorem foldFrom_cons_of_error
    {start operand : Number}
    {error : EvalError}
    (refused : start.apply (.fold operator) operand line = .error error)
    (rest : List Number) :
    start.foldFrom operator line (operand :: rest) = .error error := by
  rw [foldFrom, List.foldlM_cons, refused]
  rfl

/-- A fold has a result when its first step does and the others do behind it. -/
theorem foldFrom_cons_eq_ok_iff (start operand result : Number) (rest : List Number) :
    start.foldFrom operator line (operand :: rest) = .ok result ↔
      ∃ next, start.apply (.fold operator) operand line = .ok next ∧
        next.foldFrom operator line rest = .ok result := by
  cases applied : start.apply (.fold operator) operand line with
  | error error => simp [foldFrom_cons_of_error applied]
  | ok next => simp [foldFrom_cons_of_ok applied]

/-- A fold goes on from its running result. -/
theorem foldFrom_append_of_ok
    {start middle : Number}
    {front : List Number}
    (folded : start.foldFrom operator line front = .ok middle)
    (back : List Number) :
    start.foldFrom operator line (front ++ back) = middle.foldFrom operator line back := by
  induction front generalizing start with
  | nil =>
      obtain rfl : start = middle := Except.ok.inj folded
      rfl
  | cons operand rest inductionHypothesis =>
      obtain ⟨next, applied, foldedRest⟩ := (foldFrom_cons_eq_ok_iff _ _ _ _).mp folded
      rw [List.cons_append, foldFrom_cons_of_ok applied, inductionHypothesis foldedRest]

theorem combined_of_ok
    {start result : Number}
    {operands : List Number}
    (folded : start.foldFrom operator line operands = .ok result) :
    start.combined operator line operands = operands := by
  induction operands generalizing start with
  | nil => rfl
  | cons operand rest inductionHypothesis =>
      obtain ⟨next, applied, foldedRest⟩ := (foldFrom_cons_eq_ok_iff _ _ _ _).mp folded
      rw [combined, applied]
      exact congrArg (operand :: ·) (inductionHypothesis foldedRest)

/-! ### Reals -/

/-- A step gives a real unless it has an exact result on integers. -/
theorem exists_real_of_apply
    {left right next : Number}
    (inexact : ∀ leftWhole rightWhole, left = .integer leftWhole → right = .integer rightWhole →
      integerStep? operator leftWhole rightWhole = none)
    (applied : left.apply (.fold operator) right line = .ok next) :
    ∃ result, next = .real result := by
  unfold apply at applied
  by_cases divides : left.dividesByZero operator right
  · simp [divides] at applied
  · simp only [divides, Bool.false_eq_true, if_false, Except.ok.injEq] at applied
    refine ⟨realStep operator left.toReal right.toReal, ?_⟩
    rw [← applied]
    cases left with
    | real left => cases right <;> rfl
    | integer left =>
        cases right with
        | real right => rfl
        | integer right => simp only [combine, inexact left right rfl rfl]

/-- A fold that starts from a real ends in a real. -/
theorem exists_real_of_foldFrom_real
    {start : Float}
    {operands : List Number}
    {result : Number}
    (folded : (real start).foldFrom operator line operands = .ok result) :
    ∃ last, result = .real last := by
  induction operands generalizing start with
  | nil => exact ⟨start, (Except.ok.inj folded).symm⟩
  | cons operand rest inductionHypothesis =>
      obtain ⟨next, applied, foldedRest⟩ := (foldFrom_cons_eq_ok_iff _ _ _ _).mp folded
      obtain ⟨promoted, rfl⟩ := exists_real_of_apply (by simp) applied
      exact inductionHypothesis foldedRest

/-- A quotient is real, also that of two integers. -/
theorem exists_real_of_foldFrom_div
    {start operand result : Number}
    {rest : List Number}
    (folded : start.foldFrom .div line (operand :: rest) = .ok result) :
    ∃ last, result = .real last := by
  obtain ⟨next, applied, foldedRest⟩ := (foldFrom_cons_eq_ok_iff _ _ _ _).mp folded
  obtain ⟨quotient, rfl⟩ := exists_real_of_apply (fun _ _ _ _ => rfl) applied
  exact exists_real_of_foldFrom_real foldedRest

end

end Number

/-! ### Exact folds of integers -/

/-- The operation on integers that a sum, a difference or a product stands for. -/
def FoldOperator.onIntegers? : FoldOperator → Option (Int → Int → Int)
  | .add => some (· + ·)
  | .sub => some (· - ·)
  | .mul => some (· * ·)
  | .div | .mod | .pow => none

def leftFold (exact : Int → Int → Int) : List Int → Int
  | [] => 0
  | first :: rest => rest.foldl exact first

/-- The exact fold of the first integers fits in 64 bits, however many are taken. -/
def EveryPrefixFits (exact : Int → Int → Int) (values : List Int) : Prop :=
  ∀ count, 0 < count → count ≤ values.length → Number.Fits (leftFold exact (values.take count))

/-- An exact fold goes on from the result of its first step. -/
theorem everyPrefixFits_cons_cons_iff
    (exact : Int → Int → Int)
    (first second : Int)
    (rest : List Int) :
    EveryPrefixFits exact (first :: second :: rest) ↔
      Number.Fits first ∧ EveryPrefixFits exact (exact first second :: rest) := by
  constructor
  · intro fits
    refine ⟨fits 1 (by omega) (by simp), ?_⟩
    intro count positive short
    obtain ⟨fewer, rfl⟩ : ∃ fewer, count = fewer + 1 := ⟨count - 1, by omega⟩
    exact fits (fewer + 2) (by omega) (by simpa using short)
  · rintro ⟨firstFits, fits⟩ count positive short
    match count with
    | 1 => exact firstFits
    | fewer + 2 => exact fits (fewer + 1) (by omega) (by simpa using short)

namespace Number

section

variable
  {operator : FoldOperator}
  {exact : Int → Int → Int}
  (isExact : operator.onIntegers? = some exact)
include isExact

private theorem not_dividesByZero_of_onIntegers? (left right : Number) :
    left.dividesByZero operator right = false := by
  cases operator with
  | add | sub | mul => rfl
  | div | mod | pow => cases isExact

theorem exactOrPromoted_of_onIntegers? (left right : Int64) (line : Nat) :
    ExactOrPromoted operator left right (exact left.toInt right.toInt)
      (realStep operator (integer left).toReal (integer right).toReal) line := by
  apply exactOrPromoted_of_integerStep? (not_dividesByZero_of_onIntegers? isExact _ _)
  cases operator with
  | add | sub | mul =>
      cases isExact
      rfl
  | div | mod | pow => cases isExact

private theorem exists_foldFrom_of_onIntegers?
    (start : Number)
    (operands : List Number)
    (line : Nat) :
    ∃ result, start.foldFrom operator line operands = .ok result := by
  induction operands generalizing start with
  | nil => exact ⟨start, rfl⟩
  | cons operand rest inductionHypothesis =>
      have applied : start.apply (.fold operator) operand line =
          .ok (start.combine operator operand) :=
        if_neg (Bool.eq_false_iff.mp (not_dividesByZero_of_onIntegers? isExact start operand))
      rw [foldFrom_cons_of_ok applied]
      exact inductionHypothesis _

/-- As long as every result on the way fits, a fold of integers is exact. -/
theorem foldFrom_integers_of_fits
    (line : Nat)
    {first : Int64}
    {rest : List Int64}
    (fits : EveryPrefixFits exact (first.toInt :: rest.map Int64.toInt)) :
    ∃ whole : Int64, whole.toInt = leftFold exact (first.toInt :: rest.map Int64.toInt) ∧
      (integer first).foldFrom operator line (rest.map integer) = .ok (.integer whole) := by
  induction rest generalizing first with
  | nil => exact ⟨first, rfl, rfl⟩
  | cons second rest inductionHypothesis =>
      have fitsBehind := ((everyPrefixFits_cons_cons_iff _ _ _ _).mp fits).2
      obtain ⟨next, isNext, applied⟩ :=
        (exactOrPromoted_of_onIntegers? isExact first second line).1
          (fitsBehind 1 (by omega) (by simp))
      rw [← isNext] at fitsBehind
      obtain ⟨whole, isWhole, folded⟩ := inductionHypothesis fitsBehind
      refine ⟨whole, ?_, ?_⟩
      · rw [isWhole, isNext]
        rfl
      · rw [List.map_cons, foldFrom_cons_of_ok applied, folded]

/-- A result on the way that does not fit makes a fold of integers a real. -/
theorem foldFrom_integers_of_not_fits
    (line : Nat)
    {first : Int64}
    {rest : List Int64}
    (tooLarge : ¬ EveryPrefixFits exact (first.toInt :: rest.map Int64.toInt)) :
    ∃ promoted,
      (integer first).foldFrom operator line (rest.map integer) = .ok (.real promoted) := by
  induction rest generalizing first with
  | nil =>
      refine absurd ?_ tooLarge
      intro count positive short
      obtain rfl : count = 1 := Nat.le_antisymm short positive
      exact fits_toInt first
  | cons second rest inductionHypothesis =>
      by_cases fits : Fits (exact first.toInt second.toInt)
      · obtain ⟨next, isNext, applied⟩ :=
          (exactOrPromoted_of_onIntegers? isExact first second line).1 fits
        have tooLargeBehind : ¬ EveryPrefixFits exact (next.toInt :: rest.map Int64.toInt) := by
          rw [isNext]
          intro fitsBehind
          exact tooLarge ((everyPrefixFits_cons_cons_iff _ _ _ _).mpr ⟨fits_toInt first, fitsBehind⟩)
        obtain ⟨promoted, folded⟩ := inductionHypothesis tooLargeBehind
        exact ⟨promoted, (foldFrom_cons_of_ok applied _).trans folded⟩
      · -- From here on the fold goes on with reals, whether its later results would fit or not.
        have applied := (exactOrPromoted_of_onIntegers? isExact first second line).2 fits
        obtain ⟨result, folded⟩ := exists_foldFrom_of_onIntegers? isExact
          (real (realStep operator (integer first).toReal (integer second).toReal))
          (rest.map integer) line
        obtain ⟨promoted, rfl⟩ := exists_real_of_foldFrom_real folded
        exact ⟨promoted, (foldFrom_cons_of_ok applied _).trans folded⟩

end

end Number

/-! ### Folds of a machine -/

namespace Machine

section

variable {σ : Type} (emitter : Emitter σ)

/-- The operands have the given values when each is evaluated on the machine. -/
def HasValues (machine : Machine σ) (operands : List Expr) (values : List Number) : Prop :=
  List.Forall₂ (fun operand value => (machine.evaluate emitter operand).1 = .ok value)
    operands values

/-- The machine behind expressions that are evaluated one after the other, whatever their results
are. -/
def afterAll (machine : Machine σ) : List Expr → Machine σ
  | [] => machine
  | expr :: rest => (machine.evaluate emitter expr).2.afterAll rest

variable {emitter} {machine : Machine σ}

/-- What an expression yields behind others is what it yields before them. -/
theorem evaluate_result_behind (machine : Machine σ) (earlier expr : Expr) :
    ((machine.evaluate emitter earlier).2.evaluate emitter expr).1 =
      (machine.evaluate emitter expr).1 := by
  apply evaluate_result_eq
  intro use _
  rw [evaluate_environment]

/-- Evaluating something else in between does not change the values of the operands. -/
theorem HasValues.behind
    {exprs : List Expr}
    {values : List Number}
    (hasValues : machine.HasValues emitter exprs values)
    (earlier : Expr) :
    (machine.evaluate emitter earlier).2.HasValues emitter exprs values := by
  refine hasValues.imp ?_
  intro expr value hasValue
  rw [evaluate_result_behind, hasValue]

/-- Only the variables count, so operands that have values may be evaluated one behind the other. -/
theorem HasValues.evaluateAll_eq
    {exprs : List Expr}
    {values : List Number}
    (hasValues : machine.HasValues emitter exprs values) :
    machine.perform (Run.evaluateAll emitter exprs) =
      (.ok values, machine.afterAll emitter exprs) := by
  induction exprs generalizing machine values with
  | nil =>
      cases hasValues
      rfl
  | cons expr rest inductionHypothesis =>
      obtain ⟨value, others, hasValue, hasOthers, rfl⟩ := List.forall₂_cons_left_iff.mp hasValues
      have evaluates : machine.perform (Run.evaluate emitter expr) =
          (.ok value, (machine.evaluate emitter expr).2) := Prod.ext hasValue rfl
      have evaluatesRest := inductionHypothesis (HasValues.behind hasOthers expr)
      rw [Run.evaluateAll, perform_bind, evaluates]
      simp only [perform_bind, evaluatesRest]
      rfl

/-- The steps of a fold yield the running result behind all operands, and emit one instruction for
each operand that was combined. -/
theorem perform_foldSteps
    (machine : Machine σ)
    (operator : FoldOperator)
    (line temporary : Nat)
    (start : Number)
    (operands : List Number) :
    machine.perform (Run.foldSteps emitter operator line temporary start operands) =
      (start.foldFrom operator line operands,
        { machine with
          emitted := ((start.combined operator line operands).map
            (.fold operator temporary)).foldl emitter.emit machine.emitted }) := by
  induction operands generalizing machine start with
  | nil => rfl
  | cons operand rest inductionHypothesis =>
      rw [Run.foldSteps, perform_bind, perform_ofResult, Number.combined]
      cases applied : start.apply (.fold operator) operand line with
      | error error =>
          rw [Number.foldFrom_cons_of_error applied]
          rfl
      | ok next =>
          rw [Number.foldFrom_cons_of_ok applied]
          simp only [perform_bind, perform_emit]
          rw [inductionHypothesis]
          rfl

/-- Behind its operands, a fold takes one temporary for all its steps. -/
theorem evaluate_fold
    {operands : List Expr}
    {first : Number}
    {rest : List Number}
    {middle : Machine σ}
    (evaluates : machine.perform (Run.evaluateAll emitter operands) = (.ok (first :: rest), middle))
    (operator : FoldOperator)
    (line : Nat) :
    machine.evaluate emitter (.operation (.fold operator) operands line) =
      (first.foldFrom operator line rest,
        { middle with
          temporaries := middle.temporaries + 1
          emitted := ((first.combined operator line rest).map
            (.fold operator (middle.temporaries + 1))).foldl emitter.emit middle.emitted }) := by
  rw [evaluate, Run.evaluate, perform_bind, evaluates]
  simp only [Run.foldValues, perform_bind, perform_freshTemporary]
  exact perform_foldSteps _ operator line _ first rest

/-- The value of a fold is the fold of the values. -/
theorem HasValues.evaluate_fold_result
    {operands : List Expr}
    {first : Number}
    {rest : List Number}
    (hasValues : machine.HasValues emitter operands (first :: rest))
    (operator : FoldOperator)
    (line : Nat) :
    (machine.evaluate emitter (.operation (.fold operator) operands line)).1 =
      first.foldFrom operator line rest := by
  rw [evaluate_fold hasValues.evaluateAll_eq operator line]

/-- A quotient of two or more operands is no integer. -/
theorem evaluate_div_ne_integer
    (machine : Machine σ)
    (first second : Expr)
    (rest : List Expr)
    (line : Nat)
    (whole : Int64) :
    (machine.evaluate emitter (.operation (.fold .div) (first :: second :: rest) line)).1 ≠
      .ok (.integer whole) := by
  cases outcome : machine.perform (Run.evaluateAll emitter (first :: second :: rest)) with
  | mk result later =>
      cases result with
      | error error =>
          rw [evaluate, Run.evaluate, perform_bind, outcome]
          simp
      | ok values =>
          have count := length_of_evaluateAll outcome
          match values with
          | [] | [_] => simp at count
          | firstValue :: secondValue :: others =>
              rw [evaluate_fold outcome]
              intro folded
              obtain ⟨last, isReal⟩ := Number.exists_real_of_foldFrom_div folded
              cases isReal

end

/-- **A fold of integers is exact until a result does not fit, and real from there on.**  A sum,
difference or product of integers always has a value.  It is an integer exactly when the exact fold
of the first operands is one of 64 bits for every number of them, and then it is the exact fold of
all; otherwise it is a real.  Whatever the operator is, behind a running result that is real there
are only reals, and a quotient of two or more operands is never an integer. -/
theorem folds_exact_until_promoted
    {σ : Type}
    (emitter : Emitter σ)
    (machine : Machine σ)
    (line : Nat) :
    (∀ operator exact operands (values : List Int64),
      operator.onIntegers? = some exact → operands ≠ [] →
      machine.HasValues emitter operands (values.map .integer) →
      ∃ result later,
        machine.evaluate emitter (.operation (.fold operator) operands line) =
          (.ok result, later) ∧
        (∀ whole : Int64, result = .integer whole ↔
          EveryPrefixFits exact (values.map Int64.toInt) ∧
          whole.toInt = leftFold exact (values.map Int64.toInt)) ∧
        (¬ EveryPrefixFits exact (values.map Int64.toInt) →
          ∃ promoted, result = .real promoted)) ∧
    (∀ operator operands first rest,
      machine.HasValues emitter operands (first :: rest) →
      (machine.evaluate emitter (.operation (.fold operator) operands line)).1 =
        first.foldFrom operator line rest ∧
      ∀ count further promoted result,
        first.foldFrom operator line (rest.take count) = .ok (.real promoted) →
        first.foldFrom operator line (rest.take (count + further)) = .ok result →
        ∃ last, result = .real last) ∧
    (∀ first second rest whole later,
      machine.evaluate emitter (.operation (.fold .div) (first :: second :: rest) line) ≠
        (.ok (.integer whole), later)) := by
  refine ⟨?_, ?_, ?_⟩
  · intro operator exact operands values isExact nonempty hasValues
    cases values with
    | nil => exact absurd (List.forall₂_nil_right_iff.mp hasValues) nonempty
    | cons first rest =>
        have folded := hasValues.evaluate_fold_result operator line
        by_cases fits : EveryPrefixFits exact (first.toInt :: rest.map Int64.toInt)
        · obtain ⟨exactly, isExactly, exactFold⟩ :=
            Number.foldFrom_integers_of_fits isExact line fits
          refine ⟨.integer exactly, _, Prod.ext (folded.trans exactFold) rfl, ?_, ?_⟩
          · intro whole
            rw [Number.integer.injEq, ← Int64.toInt_inj, isExactly]
            exact ⟨fun same => ⟨fits, same.symm⟩, fun same => same.2.symm⟩
          · exact fun tooLarge => absurd fits tooLarge
        · obtain ⟨promoted, promotes⟩ :=
            Number.foldFrom_integers_of_not_fits isExact line fits
          refine ⟨.real promoted, _, Prod.ext (folded.trans promotes) rfl, ?_, ?_⟩
          · intro whole
            exact iff_of_false (by simp) (fun both => fits both.1)
          · exact fun _ => ⟨promoted, rfl⟩
  · intro operator operands first rest hasValues
    refine ⟨hasValues.evaluate_fold_result operator line, ?_⟩
    intro count further promoted result promotes folded
    rw [List.take_add, Number.foldFrom_append_of_ok promotes] at folded
    exact Number.exists_real_of_foldFrom_real folded
  · intro first second rest whole later evaluates
    exact evaluate_div_ne_integer machine first second rest line whole
      (congrArg Prod.fst evaluates)

/-- The largest integer plus one minus one is a real, although the exact result fits. -/
theorem folds_exact_until_promoted_largest :
    let operands : List Expr :=
      [.number (.integer Int64.maxValue) 1, .number (.integer 1) 1, .number (.integer (-1)) 1]
    FoldOperator.add.onIntegers? = some (· + ·) ∧ operands ≠ [] ∧
    fresh.HasValues Listing.emitter operands ([Int64.maxValue, 1, -1].map .integer) ∧
    Number.Fits (leftFold (· + ·) ([Int64.maxValue, 1, -1].map Int64.toInt)) ∧
    ∃ promoted later,
      fresh.evaluate Listing.emitter (.operation (.fold .add) operands 1) =
        (.ok (.real promoted), later) := by
  intro operands
  have hasValues :
      fresh.HasValues Listing.emitter operands ([Int64.maxValue, 1, -1].map .integer) :=
    .cons rfl (.cons rfl (.cons rfl .nil))
  have tooLarge : ¬ EveryPrefixFits (· + ·) ([Int64.maxValue, 1, -1].map Int64.toInt) := by
    intro fits
    exact absurd (fits 2 (by decide) (by decide)) (by decide)
  obtain ⟨result, later, evaluates, -, otherwise⟩ :=
    (folds_exact_until_promoted Listing.emitter fresh 1).1 .add _ operands _ rfl (by simp [operands])
      hasValues
  obtain ⟨promoted, rfl⟩ := otherwise tooLarge
  exact ⟨rfl, by simp [operands], hasValues, by decide, promoted, later, evaluates⟩

end Machine

end Reckoner
