import RunRadar.Engine.Task
import RunRadar.Filter.Registry
import RunRadar.Outcome.Basic
import RunRadar.Tree.Basic

/-!
# RunRadar.Engine.Interpreter

Evaluating a tree **on one run**. Storage answers the leaves that it can decide, evaluators the
others, and filters that are not registered pass.

An OR evaluates operand by operand and stops at the first one that passes or fails to answer. An
AND evaluates all of its operands, whatever they come to, and only then reports the first one that
did not answer. It starts them in their order, and while one of them waits for a call to be
answered, those behind it go on. How long calls are waited for is given by a `Pace`.

A leaf makes its call in one step, and so does an evaluator with the scans that it starts. Only
their answers are waited for.
-/

namespace RunRadar

/-- What trees are evaluated with. -/
structure Interpreter (σ : Type) where
  registry : Registry
  storage : Storage σ
  /-- What happens when an evaluator starts a scan. -/
  rescan : Action σ (Except ScanError ScanReport)

namespace Interpreter

variable {σ : Type} (interpreter : Interpreter σ)

/-- Follows a consultation up to its answer. -/
def follow : Consultation → Action σ (Except EvaluatorError Verdict)
  | .answer result => pure result
  | .rescan next => do
    let running := (← get).flight.running
    let report ← interpreter.rescan
    Action.call (.rescanned running report)
    follow (next report)

/-- Asks an evaluator about a run. -/
def consult (evaluate : Evaluator) (run : Run) (leaf : Leaf) :
    Action σ (Except EvaluatorError Verdict) := do
  Action.call (.consult leaf.id run.id)
  let moment := (← get).consultations
  modify fun e => { e with consultations := moment + 1 }
  interpreter.follow (evaluate moment run ⟨leaf.id, leaf.params⟩)

/-- The outcome of a leaf that an evaluator has decided. -/
def verdictOutcome (id : String) (verdict : Verdict) : Outcome :=
  .mk verdict.passed (some id) (verdict.details.map .evaluator)

/-- Evaluates a leaf of a registered filter. -/
def evaluateFilter (run : Run) (leaf : Leaf) (filter : Filter) :
    Action σ (Except EvalError Outcome) :=
  match filter.predicate? leaf.params with
  | some (.error e) => pure (.error (.params e))
  | some (.ok p) => do
    match ← Action.runMatches interpreter.storage run p with
    | .error e => return .error (.storage e)
    | .ok matched => return .ok (.ofFilter leaf.id matched)
  | none =>
    match filter.evaluator? with
    | none => pure (.ok .pass)
    | some evaluate =>
      match filter.validate leaf.params with
      | .error e => pure (.error (.params e))
      | .ok () => do
        match ← interpreter.consult evaluate run leaf with
        | .error e => return .error (.evaluator e)
        | .ok verdict => return .ok (verdictOutcome leaf.id verdict)

/-- Evaluates a leaf. -/
def evaluateLeaf (run : Run) (leaf : Leaf) : Action σ (Except EvalError Outcome) :=
  match interpreter.registry.lookup? leaf.id with
  | none => pure (.ok .pass)
  | some filter => interpreter.evaluateFilter run leaf filter

/-- The outcome of an AND over what all of its operands came to. -/
def conjunction (outcomes : List (Except EvalError Outcome)) : Except EvalError Outcome :=
  match outcomes.mapM id with
  | .error e => .error e
  | .ok outcomes => .ok (.combined (outcomes.all Outcome.passed) outcomes)

/-- The outcome of an OR with so many operands, when `found` is the one that passes. -/
def disjunction (operands : Nat) (found : Option Outcome) : Outcome :=
  match found with
  | some outcome => .combined true [outcome]
  | none => .combined false (List.replicate operands .fail)

variable (pace : Pace)

mutual
/-- The evaluation of a tree, in turns. -/
def task (run : Run) : Tree → Task σ (Except EvalError Outcome)
  | .identity op => pure (.ok (.bare op.identity))
  | .leaf l => .called pace (interpreter.evaluateLeaf run l)
  | .combine .and operands => do
    return conjunction (← taskOfAll run operands)
  | .combine .or operands => do
    return (← taskUpToPass run operands).map (disjunction operands.length)
/-- The evaluations of all operands, which take turns. -/
def taskOfAll (run : Run) : List Tree → Task σ (List (Except EvalError Outcome))
  | [] => pure []
  | t :: ts => .both List.cons (task run t) (taskOfAll run ts)
/-- The evaluation of operands up to the first one that passes or fails to answer. -/
def taskUpToPass (run : Run) : List Tree → Task σ (Except EvalError (Option Outcome))
  | [] => pure (.ok none)
  | t :: ts => do
    match ← task run t with
    | .error e => return .error e
    | .ok outcome => if outcome.passed then return .ok (some outcome) else taskUpToPass run ts
end

/-- Evaluates a tree. -/
def evaluateAt (run : Run) (t : Tree) : Action σ (Except EvalError Outcome) :=
  (interpreter.task pace run t).finish

/-- Evaluates a tree where all calls are answered at once. -/
def evaluate (run : Run) (t : Tree) : Action σ (Except EvalError Outcome) :=
  interpreter.evaluateAt .atOnce run t

end Interpreter

end RunRadar
