import Reckoner.Proofs.Correspondence
import Reckoner.Proofs.Lockstep

/-!
Contract: a run does not depend on the emitter that takes its lines.

A machine hands lines to its emitter and asks nothing back.  So the run with any emitter goes step by
step with the run whose emitter only records the lines, and the emitter ends in the state in which
the recorded lines put it, one after the other.  This holds also of runs that fail on the way, and
of an emitter that is lent out while its state stays with an owner.

Owns: the recording emitter, emitters that work at a place of a larger state, and what a call does
apart from any emitter.

Does not own: which lines a call emits.
-/

namespace Reckoner

/-! ### Emitters -/

def Line.threeAddress? : Line → Option String
  | .threeAddress text => some text
  | .assembly _ => none

def Line.assembly? : Line → Option String
  | .threeAddress _ => none
  | .assembly text => some text

/-- A part of a larger state, which can be read and replaced there. -/
structure Place (ω σ : Type) where
  get : ω → σ
  set : σ → ω → ω
  get_set : ∀ part owner, get (set part owner) = part
  set_get : ∀ owner, set (get owner) owner = owner
  set_set : ∀ part earlier owner, set part (set earlier owner) = set part owner

namespace Emitter

variable {σ ω : Type}

/-- The emitter that records the lines of both kinds in their order. -/
def recorder : Emitter (List Line) where
  threeAddress recorded text := recorded ++ [.threeAddress text]
  assembly recorded text := recorded ++ [.assembly text]

/-- An emitter that is lent out: it changes the state that its owner keeps at a place. -/
def borrowed (emitter : Emitter σ) (place : Place ω σ) : Emitter ω where
  threeAddress owner text := place.set (emitter.threeAddress (place.get owner) text) owner
  assembly owner text := place.set (emitter.assembly (place.get owner) text) owner

private theorem foldl_take_recorder (lines recorded : List Line) :
    lines.foldl recorder.take recorded = recorded ++ lines := by
  induction lines generalizing recorded with
  | nil => rw [List.foldl_nil, List.append_nil]
  | cons line rest inductionHypothesis =>
      have taken : recorder.take recorded line = recorded ++ [line] := by
        cases line <;> rfl
      rw [List.foldl_cons, inductionHypothesis, taken, List.append_assoc, List.singleton_append]

/-- What is recorded can be handed to another emitter later on. -/
theorem foldl_take_emit_recorder
    (emitter : Emitter σ)
    (emitted : σ)
    (recorded : List Line)
    (instruction : Instruction) :
    (recorder.emit recorded instruction).foldl emitter.take emitted =
      emitter.emit (recorded.foldl emitter.take emitted) instruction := by
  rw [emit, foldl_take_recorder, List.foldl_append, emit]

private theorem foldl_take_borrowed
    (emitter : Emitter σ)
    (place : Place ω σ)
    (lines : List Line)
    (owner : ω) :
    lines.foldl (emitter.borrowed place).take owner =
      place.set (lines.foldl emitter.take (place.get owner)) owner := by
  induction lines generalizing owner with
  | nil => exact (place.set_get owner).symm
  | cons line rest inductionHypothesis =>
      have taken : (emitter.borrowed place).take owner line =
          place.set (emitter.take (place.get owner) line) owner := by
        cases line <;> rfl
      rw [List.foldl_cons, inductionHypothesis, taken, place.get_set, place.set_set,
        List.foldl_cons]

end Emitter

namespace Listing

private theorem threeAddress_foldl_take (listing : Listing) (lines : List Line) :
    (lines.foldl emitter.take listing).threeAddress =
      listing.threeAddress ++ lines.filterMap Line.threeAddress? := by
  rw [threeAddress, toList_foldl_take, List.filterMap_append]
  rfl

private theorem assembly_foldl_take (listing : Listing) (lines : List Line) :
    (lines.foldl emitter.take listing).assembly =
      listing.assembly ++ lines.filterMap Line.assembly? := by
  rw [assembly, toList_foldl_take, List.filterMap_append]
  rfl

end Listing

/-! ### The run beside a recorded one -/

namespace Correspondence

variable {σ : Type} (emitter : Emitter σ) (start : σ)

/-- The run with an emitter that starts in `start`, beside the run that records. -/
def besideRecording : Correspondence (List Line) σ where
  machines machine other :=
    other = ⟨machine.environment, machine.temporaries, machine.emitted.foldl emitter.take start⟩
  rename := id
  renumber := id

private theorem besideRecording_rename : (besideRecording emitter start).rename = id := rfl

private theorem besideRecording_emit (instruction : Instruction) :
    (besideRecording emitter start).Relates id (Run.emit Emitter.recorder instruction)
      (Run.emit emitter (instruction.relabelled id id)) := by
  rintro machine _ rfl
  refine ⟨rfl, ?_⟩
  rw [Instruction.relabelled_id, Machine.perform_emit, Machine.perform_emit]
  exact congrArg (Machine.mk _ _)
    (Emitter.foldl_take_emit_recorder emitter start machine.emitted instruction).symm

private theorem besideRecording_lookUp (name : String) (line : Nat) :
    (besideRecording emitter start).KeptByLookUp name line := by
  rintro machine _ rfl
  rw [Machine.perform_variableValue, Machine.perform_variableValue]
  refine ⟨?_, rfl⟩
  simp only [besideRecording_rename, id_eq]
  cases machine.environment.find? name <;> rfl

private theorem besideRecording_kept :
    (besideRecording emitter start).Kept Emitter.recorder emitter where
  freshTemporary := by
    rintro machine _ rfl
    exact ⟨rfl, rfl⟩
  emit := besideRecording_emit emitter start
  lookUp := besideRecording_lookUp emitter start
  setVariable := by
    rintro name value machine _ rfl
    exact ⟨rfl, rfl⟩

end Correspondence

/-! ### Calls apart from any emitter -/

/-- What a call does apart from any emitter: its result, the variables and the number of temporaries
that it leaves, and the lines that it emits. -/
structure Effect (α : Type) where
  result : Except EvalError α
  environment : NameMap Number
  temporaries : Nat
  lines : List Line

namespace Effect

variable {α σ : Type}

def ofRecording (recording : Except EvalError α × Machine (List Line)) : Effect α :=
  ⟨recording.1, recording.2.environment, recording.2.temporaries, recording.2.emitted⟩

def on (effect : Effect α) (emitter : Emitter σ) (emitted : σ) : Except EvalError α × Machine σ :=
  (effect.result,
    ⟨effect.environment, effect.temporaries, effect.lines.foldl emitter.take emitted⟩)

/-- The effect is that of a call from given variables and temporaries, with any emitter.  The
emitter may be lent out; then nothing else changes with its owner.  What a recorder records and what
a listing gains are the lines of the effect. -/
structure Describes
    (effect : Effect α)
    (environment : NameMap Number)
    (temporaries : Nat)
    (call : {σ : Type} → Emitter σ → Machine σ → Except EvalError α × Machine σ) : Prop where
  owned : ∀ {σ : Type} (emitter : Emitter σ) (emitted : σ),
    call emitter ⟨environment, temporaries, emitted⟩ = effect.on emitter emitted
  lent : ∀ {ω σ : Type} (emitter : Emitter σ) (place : Place ω σ) (owner : ω),
    call (emitter.borrowed place) ⟨environment, temporaries, owner⟩ =
      (effect.result,
        ⟨effect.environment, effect.temporaries,
          place.set (effect.lines.foldl emitter.take (place.get owner)) owner⟩)
  recorded : ∀ earlier : List Line,
    (call Emitter.recorder ⟨environment, temporaries, earlier⟩).2.emitted = earlier ++ effect.lines
  listed : ∀ listing : Listing,
    let later := (call Listing.emitter ⟨environment, temporaries, listing⟩).2.emitted
    later.threeAddress = listing.threeAddress ++ effect.lines.filterMap Line.threeAddress? ∧
    later.assembly = listing.assembly ++ effect.lines.filterMap Line.assembly?

/-- An effect that holds with every emitter of its own holds with lent ones, recorders and
listings. -/
theorem describes_of_owned
    {effect : Effect α}
    {environment : NameMap Number}
    {temporaries : Nat}
    {call : {σ : Type} → Emitter σ → Machine σ → Except EvalError α × Machine σ}
    (owned : ∀ {σ : Type} (emitter : Emitter σ) (emitted : σ),
      call emitter ⟨environment, temporaries, emitted⟩ = effect.on emitter emitted) :
    effect.Describes environment temporaries call where
  owned := owned
  lent := by
    intro ω σ emitter place owner
    rw [owned, on, Emitter.foldl_take_borrowed]
  recorded := by
    intro earlier
    rw [owned, on, Emitter.foldl_take_recorder]
  listed := by
    intro listing later
    have taken : later = effect.lines.foldl Listing.emitter.take listing := by
      rw [show later = (effect.on Listing.emitter listing).2.emitted from
        congrArg (·.2.emitted) (owned Listing.emitter listing)]
      rfl
    rw [taken]
    exact ⟨Listing.threeAddress_foldl_take _ _, Listing.assembly_foldl_take _ _⟩

end Effect

/-- Steps that correspond to their recording, whatever emitter takes the lines, have one effect. -/
theorem Effect.exists_describes
    {α : Type}
    {steps : {σ : Type} → Emitter σ → Run σ α}
    (relates : ∀ {σ : Type} (emitter : Emitter σ) (start : σ),
      (Correspondence.besideRecording emitter start).Relates id (steps Emitter.recorder)
        (steps emitter))
    (environment : NameMap Number)
    (temporaries : Nat) :
    ∃ effect : Effect α, effect.Describes environment temporaries fun emitter machine =>
      machine.perform (steps emitter) := by
  let recording := (Machine.mk environment temporaries []).perform (steps Emitter.recorder)
  refine ⟨.ofRecording recording, describes_of_owned ?_⟩
  intro σ emitter emitted
  -- Before the first line nothing is recorded, so the two machines belong together.
  have belong : (Correspondence.besideRecording emitter emitted).machines
      ⟨environment, temporaries, []⟩ ⟨environment, temporaries, emitted⟩ := rfl
  have sameResult := (relates emitter emitted).sameResult
    (Correspondence.besideRecording_rename emitter emitted) belong
  have sameMachine := (relates emitter emitted _ _ belong).2
  exact Prod.ext sameResult sameMachine

/-- **The emitter has no influence.**  From given variables and temporaries, every expression, every
statement and every program has one effect, with one list of lines.  With any emitter the call has
this result and leaves these variables and temporaries, also when it fails, and the emitter has
taken these lines in order. -/
theorem calls_ignore_emitter (environment : NameMap Number) (temporaries : Nat) :
    (∀ expr : Expr, ∃ effect : Effect Number,
      effect.Describes environment temporaries fun emitter machine =>
        machine.evaluate emitter expr) ∧
    (∀ statement : Statement, ∃ effect : Effect (Option Number),
      effect.Describes environment temporaries fun emitter machine =>
        machine.execute emitter statement) ∧
    (∀ program : Program, ∃ effect : Effect (List Number),
      effect.Describes environment temporaries fun emitter machine =>
        machine.executeAll emitter program) := by
  refine ⟨?_, ?_, ?_⟩
  · intro expr
    refine Effect.exists_describes ?_ environment temporaries
    intro σ emitter start
    have relates := Correspondence.relates_expression
      (Correspondence.besideRecording_kept emitter start) expr
    rwa [Correspondence.besideRecording_rename, Expr.renamed_id] at relates
  · intro statement
    refine Effect.exists_describes ?_ environment temporaries
    intro σ emitter start
    have relates := Correspondence.relates_execute
      (Correspondence.besideRecording_kept emitter start) statement
    rwa [Correspondence.besideRecording_rename, Statement.renamed_id] at relates
  · intro program
    refine Effect.exists_describes ?_ environment temporaries
    intro σ emitter start
    have relates := Correspondence.relates_executeAll
      (Correspondence.besideRecording_kept emitter start) program
    rwa [Correspondence.besideRecording_rename, Statement.map_renamed_id] at relates

end Reckoner
