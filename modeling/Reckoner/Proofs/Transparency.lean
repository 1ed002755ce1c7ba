import Reckoner.Proofs.Causes

/-!
Contract: groups and the operands that a function ignores leave no trace in a run.

A group is evaluated as what it holds, and a function evaluates its first operand only.  So an
expression can be stripped of both, at any depth, and nothing of a run changes: not the values that
it prints, not the error and its line, not the variables, the temporaries or the lines.  What stands
in the place of an ignored operand does not matter either, even if it has no value.

Owns: stripped expressions and programs, the replacement of ignored operands, and the agreement of
the runs.

Does not own: what a parse tree or a dump shows.  Groups and ignored operands appear there.
-/

namespace Reckoner

/-! ### Stripped programs -/

mutual

/-- An expression with every group replaced by what it holds, and with no operand behind the first
one of a function. -/
def Expr.stripped : Expr → Expr
  | .number value line => .number value line
  | .identifier name line => .identifier name line
  | .group inner _ => inner.stripped
  | .operation (.fold operator) operands line =>
      .operation (.fold operator) (Expr.allStripped operands) line
  | .operation (.function operator) [] line => .operation (.function operator) [] line
  | .operation (.function operator) (operand :: _) line =>
      .operation (.function operator) [operand.stripped] line

def Expr.allStripped : List Expr → List Expr
  | [] => []
  | expr :: rest => expr.stripped :: Expr.allStripped rest

end

def Statement.stripped : Statement → Statement
  | .declare name value line => .declare name value.stripped line
  | .assign name value line => .assign name value.stripped line
  | .print value line => .print value.stripped line

/-- Whether a node is no group and ignores none of its operands. -/
def Expr.isBare : Expr → Bool
  | .group .. => false
  | .operation (.function _) operands _ => operands.length ≤ 1
  | .number .. | .identifier .. | .operation (.fold _) _ _ => true

/-- A program in which every node of every expression is bare. -/
def Bare (program : Program) : Prop :=
  ∀ statement ∈ program, ∀ node ∈ statement.value.nodes, node.isBare

private theorem Statement.value_stripped (statement : Statement) :
    statement.stripped.value = statement.value.stripped := by
  cases statement <;> rfl

mutual

/-- Stripping leaves only bare nodes. -/
theorem Expr.isBare_of_mem_nodes_stripped
    (expr : Expr)
    {node : Expr}
    (member : node ∈ expr.stripped.nodes) :
    node.isBare := by
  cases expr with
  | number value line | identifier name line =>
      rw [List.mem_singleton.mp member]
      rfl
  | group inner line => exact isBare_of_mem_nodes_stripped inner member
  | operation operator operands line =>
      cases operator with
      | fold step =>
          rcases List.mem_cons.mp member with same | within
          · rw [same]
            rfl
          · exact isBare_of_mem_nodesOfAll_stripped operands within
      | function function =>
          cases operands with
          | nil =>
              rw [List.mem_singleton.mp member]
              rfl
          | cons operand unused =>
              rcases List.mem_cons.mp member with same | within
              · rw [same]
                rfl
              · rw [Expr.nodesOfAll, Expr.nodesOfAll, List.append_nil] at within
                exact isBare_of_mem_nodes_stripped operand within

private theorem Expr.isBare_of_mem_nodesOfAll_stripped
    (exprs : List Expr)
    {node : Expr}
    (member : node ∈ Expr.nodesOfAll (Expr.allStripped exprs)) :
    node.isBare := by
  cases exprs with
  | nil => cases member
  | cons expr rest =>
      rcases List.mem_append.mp member with inFirst | inRest
      · exact isBare_of_mem_nodes_stripped expr inFirst
      · exact isBare_of_mem_nodesOfAll_stripped rest inRest

end

mutual

/-- Where every node is bare there is nothing to strip. -/
theorem Expr.stripped_of_bare (expr : Expr) (bare : ∀ node ∈ expr.nodes, node.isBare) :
    expr.stripped = expr := by
  cases expr with
  | number value line | identifier name line => rfl
  | group inner line => exact absurd (bare _ List.mem_cons_self) Bool.false_ne_true
  | operation operator operands line =>
      have bareOperands : ∀ node ∈ Expr.nodesOfAll operands, node.isBare :=
        fun node within => bare node (List.mem_cons_of_mem _ within)
      cases operator with
      | fold step => rw [stripped, allStripped_of_bare operands bareOperands]
      | function function =>
          match operands with
          | [] => rfl
          | [operand] =>
              have bareOperand : ∀ node ∈ operand.nodes, node.isBare :=
                fun node within => bareOperands node (List.mem_append_left _ within)
              rw [stripped, stripped_of_bare operand bareOperand]
          | operand :: second :: others =>
              have short := bare _ List.mem_cons_self
              simp [isBare] at short

private theorem Expr.allStripped_of_bare
    (exprs : List Expr)
    (bare : ∀ node ∈ Expr.nodesOfAll exprs, node.isBare) :
    Expr.allStripped exprs = exprs := by
  cases exprs with
  | nil => rfl
  | cons expr rest =>
      obtain ⟨bareFirst, bareRest⟩ := List.forall_mem_append.mp bare
      rw [allStripped, stripped_of_bare expr bareFirst, allStripped_of_bare rest bareRest]

end

/-- Stripping leaves no group and no unused operand. -/
theorem bare_map_stripped (program : Program) : Bare (program.map Statement.stripped) := by
  intro statement member node within
  obtain ⟨original, -, rfl⟩ := List.mem_map.mp member
  rw [Statement.value_stripped] at within
  exact Expr.isBare_of_mem_nodes_stripped original.value within

private theorem Statement.stripped_of_bare
    {statement : Statement}
    (bare : ∀ node ∈ statement.value.nodes, node.isBare) :
    statement.stripped = statement := by
  have unchanged := Expr.stripped_of_bare statement.value bare
  cases statement with
  | declare name value line => exact congrArg (Statement.declare name · line) unchanged
  | assign name value line => exact congrArg (Statement.assign name · line) unchanged
  | print value line => exact congrArg (Statement.print · line) unchanged

/-- A program is stripped exactly when every node of it is bare. -/
theorem map_stripped_eq_iff_bare (program : Program) :
    program.map Statement.stripped = program ↔ Bare program := by
  constructor
  · intro unchanged
    rw [← unchanged]
    exact bare_map_stripped program
  · intro bare
    calc program.map Statement.stripped
        = program.map id := by
          apply List.map_congr_left
          intro statement member
          exact Statement.stripped_of_bare (bare statement member)
      _ = program := List.map_id program

/-! ### Ignored operands -/

mutual

/-- The second expression is the first one with any other operands, in any number, where a function
ignores them. -/
inductive Expr.Refilled : Expr → Expr → Prop where
  | number {value : Number} {line : Nat} : Refilled (.number value line) (.number value line)
  | identifier {name : String} {line : Nat} :
      Refilled (.identifier name line) (.identifier name line)
  | group {inner other : Expr} {line : Nat} (refilled : Refilled inner other) :
      Refilled (.group inner line) (.group other line)
  | fold {operator : FoldOperator} {operands others : List Expr} {line : Nat}
      (refilled : AllRefilled operands others) :
      Refilled (.operation (.fold operator) operands line) (.operation (.fold operator) others line)
  | missing {operator : FunctionOperator} {line : Nat} :
      Refilled (.operation (.function operator) [] line) (.operation (.function operator) [] line)
  | function {operator : FunctionOperator} {operand other : Expr} {unused replacement : List Expr}
      {line : Nat}
      (refilled : Refilled operand other) :
      Refilled (.operation (.function operator) (operand :: unused) line)
        (.operation (.function operator) (other :: replacement) line)

inductive Expr.AllRefilled : List Expr → List Expr → Prop where
  | nil : AllRefilled [] []
  | cons {expr other : Expr} {rest others : List Expr}
      (first : Refilled expr other)
      (behind : AllRefilled rest others) :
      AllRefilled (expr :: rest) (other :: others)

end

/-- The second statement is the first one with other operands where a function ignores them. -/
inductive Statement.Refilled : Statement → Statement → Prop where
  | declare {name : String} {value other : Expr} {line : Nat} (refilled : value.Refilled other) :
      Refilled (.declare name value line) (.declare name other line)
  | assign {name : String} {value other : Expr} {line : Nat} (refilled : value.Refilled other) :
      Refilled (.assign name value line) (.assign name other line)
  | print {value other : Expr} {line : Nat} (refilled : value.Refilled other) :
      Refilled (.print value line) (.print other line)

mutual

/-- Stripping removes exactly what may be replaced. -/
theorem Expr.Refilled.stripped_eq
    {expr other : Expr}
    (refilled : expr.Refilled other) :
    other.stripped = expr.stripped := by
  cases refilled with
  | number | identifier | missing => rfl
  | group refilled => exact refilled.stripped_eq
  | fold refilled => rw [stripped, stripped, refilled.allStripped_eq]
  | function refilled => rw [stripped, stripped, refilled.stripped_eq]

private theorem Expr.AllRefilled.allStripped_eq
    {exprs others : List Expr}
    (refilled : Expr.AllRefilled exprs others) :
    Expr.allStripped others = Expr.allStripped exprs := by
  cases refilled with
  | nil => rfl
  | cons first behind => rw [allStripped, allStripped, first.stripped_eq, behind.allStripped_eq]

end

private theorem Statement.Refilled.stripped_eq
    {statement other : Statement}
    (refilled : statement.Refilled other) :
    other.stripped = statement.stripped := by
  cases refilled with
  | declare refilled | assign refilled | print refilled =>
      rw [Statement.stripped, Statement.stripped, refilled.stripped_eq]

private theorem map_stripped_eq_of_refilled
    {program other : Program}
    (refilled : List.Forall₂ Statement.Refilled program other) :
    other.map Statement.stripped = program.map Statement.stripped := by
  induction refilled with
  | nil => rfl
  | cons first _ inductionHypothesis =>
      rw [List.map_cons, List.map_cons, first.stripped_eq, inductionHypothesis]

/-! ### Runs -/

namespace Run

variable {σ : Type} (emitter : Emitter σ)

mutual

/-- A stripped expression takes the very steps of the whole one. -/
theorem evaluate_stripped (expr : Expr) :
    evaluate emitter expr.stripped = evaluate emitter expr := by
  cases expr with
  | number value line | identifier name line => rfl
  | group inner line => exact evaluate_stripped inner
  | operation operator operands line =>
      cases operator with
      | fold step => rw [Expr.stripped, evaluate, evaluate, evaluateAll_stripped operands]
      | function function =>
          cases operands with
          | nil => rfl
          | cons operand unused => rw [Expr.stripped, evaluate, evaluate, evaluate_stripped operand]

private theorem evaluateAll_stripped (exprs : List Expr) :
    evaluateAll emitter (Expr.allStripped exprs) = evaluateAll emitter exprs := by
  cases exprs with
  | nil => rfl
  | cons expr rest =>
      rw [Expr.allStripped, evaluateAll, evaluateAll, evaluate_stripped expr,
        evaluateAll_stripped rest]

end

theorem execute_stripped (statement : Statement) :
    execute emitter statement.stripped = execute emitter statement := by
  cases statement with
  | declare name value line | assign name value line =>
      rw [Statement.stripped, execute, execute, define, define, evaluate_stripped emitter value]
  | print value line =>
      rw [Statement.stripped, execute, execute, evaluate_stripped emitter value]

/-- Groups and unused operands have no effect on a run. -/
theorem executeAll_stripped (program : Program) :
    executeAll emitter (program.map Statement.stripped) = executeAll emitter program := by
  induction program with
  | nil => rfl
  | cons statement rest inductionHypothesis =>
      rw [List.map_cons, executeAll, executeAll, execute_stripped emitter statement,
        inductionHypothesis]

end Run

namespace Machine

/-- **Groups and ignored operands are invisible.**  On any machine and with any emitter, a program
and the stripped one print the same values or fail with the same error, and leave the same machine.
The stripped program has no group and no ignored operand, and a program without them is its own
stripped form.  Ignored operands may be replaced by any expressions in any number, also by
expressions that have no value. -/
theorem execution_ignores_groups_and_unused
    {σ : Type}
    (emitter : Emitter σ)
    (machine : Machine σ)
    (program : Program) :
    machine.executeAll emitter (program.map Statement.stripped) =
      machine.executeAll emitter program ∧
    Bare (program.map Statement.stripped) ∧
    (program.map Statement.stripped = program ↔ Bare program) ∧
    ∀ other, List.Forall₂ Statement.Refilled program other →
      machine.executeAll emitter other = machine.executeAll emitter program := by
  have sameRun : ∀ whole : Program,
      machine.executeAll emitter (whole.map Statement.stripped) =
        machine.executeAll emitter whole :=
    fun whole => congrArg machine.perform (Run.executeAll_stripped emitter whole)
  refine ⟨sameRun program, bare_map_stripped program, map_stripped_eq_iff_bare program, ?_⟩
  intro other refilled
  calc machine.executeAll emitter other
      = machine.executeAll emitter (other.map Statement.stripped) := (sameRun other).symm
    _ = machine.executeAll emitter (program.map Statement.stripped) := by
        rw [map_stripped_eq_of_refilled refilled]
    _ = machine.executeAll emitter program := sameRun program

/-- The second operand of a logarithm is an unknown name, and then a division by zero. -/
theorem execution_ignores_groups_and_unused_failing :
    let hundred : Expr := .group (.number (.integer 100) 1) 1
    let unknown : Expr := .identifier "nothing" 1
    let division : Expr :=
      .operation (.fold .div) [.number (.integer 1) 1, .number (.integer 0) 1] 1
    let program : Program := [.print (.operation (.function .log) [hundred, unknown] 1) 1]
    let other : Program := [.print (.operation (.function .log) [hundred, division, unknown] 1) 1]
    List.Forall₂ Statement.Refilled program other ∧
    (fresh.evaluate Listing.emitter division).1 = .error (.divisionByZero 1) ∧
    program.map Statement.stripped =
      [.print (.operation (.function .log) [.number (.integer 100) 1] 1) 1] ∧
    fresh.executeAll Listing.emitter (program.map Statement.stripped) =
      fresh.executeAll Listing.emitter program ∧
    fresh.executeAll Listing.emitter other = fresh.executeAll Listing.emitter program := by
  intro hundred unknown division program other
  have refilled : List.Forall₂ Statement.Refilled program other :=
    .cons (.print (.function (.group .number))) .nil
  have invisible := execution_ignores_groups_and_unused Listing.emitter fresh program
  exact ⟨refilled, rfl, rfl, invisible.1, invisible.2.2.2 other refilled⟩

end Machine

end Reckoner
