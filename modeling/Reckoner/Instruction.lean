import Reckoner.Number.Text
import Reckoner.Operator

/-!
Contract: the instructions that a run produces and their two written forms.

Owns: the four instructions, their lines of three-address code and of assembly, the order in which
these lines are written, and emitters, which take the lines one by one.

Does not own: which instructions a program produces.
-/

namespace Reckoner

/-- An instruction of a run.  Temporaries are numbered from one. -/
inductive Instruction where
  /-- A variable takes a value. -/
  | store (name : String) (value : Number)
  /-- The running result in a temporary is combined with a value. -/
  | fold (operator : FoldOperator) (temporary : Nat) (value : Number)
  /-- A temporary takes a function of a value. -/
  | call (operator : FunctionOperator) (temporary : Nat) (value : Number)
  /-- A value is put into a temporary and printed. -/
  | print (temporary : Nat) (value : Number)
deriving DecidableEq

/-- A written line, of either of the two listings. -/
inductive Line where
  | threeAddress (text : String)
  | assembly (text : String)
deriving DecidableEq

def temporaryName (temporary : Nat) : String :=
  s!"T{temporary}"

namespace Instruction

def threeAddress : Instruction → String
  | .store name value => s!"{name} = {value.text}"
  | .fold operator temporary value =>
      let cell := temporaryName temporary
      s!"{cell} = {cell} {operator.symbol} {value.text}"
  | .call operator temporary value =>
      s!"{temporaryName temporary} = {operator.keyword}({value.text})"
  | .print temporary value => s!"{temporaryName temporary} = {value.text}"

/-- The lines of assembly of an instruction: one, and for printing a second one. -/
def assembly : Instruction → List String
  | .store name value => [s!"MOV {name}, {value.text}"]
  | .fold operator temporary value =>
      let cell := temporaryName temporary
      [s!"{operator.keyword} {cell}, {cell}, {value.text}"]
  | .call operator temporary value =>
      [s!"{operator.keyword} {temporaryName temporary}, {value.text}"]
  | .print temporary value =>
      let cell := temporaryName temporary
      [s!"MOV {cell}, {value.text}", s!"OUT {cell}"]

def lines (instruction : Instruction) : List Line :=
  .threeAddress instruction.threeAddress :: instruction.assembly.map .assembly

end Instruction

/-- Something that takes lines: one state transition for each of the two kinds. -/
structure Emitter (σ : Type) where
  threeAddress : σ → String → σ
  assembly : σ → String → σ

namespace Emitter

variable {σ : Type}

def take (emitter : Emitter σ) (state : σ) : Line → σ
  | .threeAddress text => emitter.threeAddress state text
  | .assembly text => emitter.assembly state text

def emit (emitter : Emitter σ) (state : σ) (instruction : Instruction) : σ :=
  instruction.lines.foldl emitter.take state

end Emitter

structure Listing where
  lines : Array Line := #[]
deriving DecidableEq

namespace Listing

def emitter : Emitter Listing where
  threeAddress listing text := ⟨listing.lines.push (.threeAddress text)⟩
  assembly listing text := ⟨listing.lines.push (.assembly text)⟩

def threeAddress (listing : Listing) : List String :=
  listing.lines.toList.filterMap fun
    | .threeAddress text => some text
    | .assembly _ => none

def assembly (listing : Listing) : List String :=
  listing.lines.toList.filterMap fun
    | .threeAddress _ => none
    | .assembly text => some text

/-- The lines written after an earlier state of the listing. -/
def since (listing earlier : Listing) : List Line :=
  listing.lines.toList.drop earlier.lines.size

def join (lines : List String) : String :=
  "\n".intercalate lines

end Listing

end Reckoner
