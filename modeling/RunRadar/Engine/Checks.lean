import RunRadar.Engine.Interpreter
import RunRadar.Store.Memory

/-!
# RunRadar.Engine.Checks

Evaluating the **checks of a radar** on one run. At the root, operands are evaluated only as
far as they are needed: an OR up to the first that passes, and an AND up to the first that
does not. Below the root, the interpreter takes over.
-/

namespace RunRadar

/-- The verdict of checks, with the outcomes of the operands that were evaluated. -/
structure ChecksOutcome where
  passed : Bool
  results : List Outcome
deriving DecidableEq

namespace Interpreter

variable {σ : Type} (interpreter : Interpreter σ) (pace : Pace)

/-- Evaluates operands up to the first one that decides the connective. -/
def checkOperands (run : Run) (op : Connective) :
    List Tree → Action σ (Except EvalError ChecksOutcome)
  | [] => pure (.ok ⟨op.identity, []⟩)
  | t :: ts => do
    match ← interpreter.evaluateAt pace run t with
    | .error e => return .error e
    | .ok outcome =>
      if outcome.passed = op.identity then
        return (← checkOperands run op ts).map fun rest =>
          ⟨rest.passed, outcome :: rest.results⟩
      else return .ok ⟨outcome.passed, [outcome]⟩

/-- Evaluates checks. A leaf counts as an AND of one operand, and an identity has its value
without any operands. -/
def runChecksAt (run : Run) : Tree → Action σ (Except EvalError ChecksOutcome)
  | .identity op => pure (.ok ⟨op.identity, []⟩)
  | .combine op operands => interpreter.checkOperands pace run op operands
  | .leaf l => interpreter.checkOperands pace run .and [.leaf l]

/-- Evaluates checks where all calls are answered at once. -/
def runChecks (run : Run) (checks : Tree) : Action σ (Except EvalError ChecksOutcome) :=
  interpreter.runChecksAt .atOnce run checks

end Interpreter

/-! ### Runs that are not stored -/

/-- Evaluating over a store in memory, where evaluators find no scan to join. -/
def Interpreter.inMemory (registry : Registry) : Interpreter Memory :=
  ⟨registry, Memory.storage, pure (.ok .skipped)⟩

/-- Evaluates checks on a run that no storage holds. -/
def evaluateChecks (registry : Registry) (run : Run) (checks : Tree) :
    Except EvalError ChecksOutcome :=
  ((Interpreter.inMemory registry).runChecks run checks (Engine.start .empty)).1

end RunRadar
