import RunRadar.Proofs.Engine.Evaluation

/-!
# RunRadar.Proofs.Engine.Sequence

Evaluation **one operand after the other**. Where all calls are answered at once, the operands of
an AND have nothing to wait for, so each of them comes to its end before the next one starts, and
trees are evaluated by the equations here.
-/

namespace RunRadar

open RunRadar.Action

namespace Interpreter

variable {σ : Type} (interpreter : Interpreter σ)

/-- Evaluates all operands, one after the other. -/
def evaluateAll (run : Run) : List Tree → Action σ (List Evaluated)
  | [] => pure []
  | t :: ts => do
    let outcome ← interpreter.evaluate run t
    let outcomes ← evaluateAll run ts
    return outcome :: outcomes

/-- Evaluates operands up to the first one that passes or fails to answer. -/
def firstPass (run : Run) : List Tree → Action σ (Except EvalError (Option Outcome))
  | [] => pure (.ok none)
  | t :: ts => do
    match ← interpreter.evaluate run t with
    | .error e => return .error e
    | .ok outcome => if outcome.passed then return .ok (some outcome) else firstPass run ts

variable {interpreter} {run : Run}

/-- No operand ever waits. -/
theorem isPrompt_task (t : Tree) : (interpreter.task .atOnce run t).IsPrompt := by
  induction t using Tree.operand_induction with
  | identity op => exact Task.isPrompt_pure _
  | leaf l => exact Task.isPrompt_called _
  | combine op ts ih =>
      cases op with
      | and =>
          have hall : (interpreter.taskOfAll .atOnce run ts).IsPrompt := by
            induction ts with
            | nil => exact Task.isPrompt_pure _
            | cons t ts ihs =>
                refine (ih t List.mem_cons_self).both _ ?_
                exact ihs fun s hs => ih s (List.mem_cons_of_mem _ hs)
          exact hall.bind fun _ => Task.isPrompt_pure _
      | or =>
          have hpass : (interpreter.taskUpToPass .atOnce run ts).IsPrompt := by
            induction ts with
            | nil => exact Task.isPrompt_pure _
            | cons t ts ihs =>
                refine (ih t List.mem_cons_self).bind fun r => ?_
                cases r with
                | error e => exact Task.isPrompt_pure _
                | ok o =>
                    dsimp only
                    split
                    · exact Task.isPrompt_pure _
                    · exact ihs fun s hs => ih s (List.mem_cons_of_mem _ hs)
          exact hpass.bind fun _ => Task.isPrompt_pure _

theorem finish_taskOfAll (ts : List Tree) :
    (interpreter.taskOfAll .atOnce run ts).finish = interpreter.evaluateAll run ts := by
  induction ts with
  | nil => rfl
  | cons t ts ih =>
      rw [taskOfAll, Task.finish_both List.cons (isPrompt_task t), ih]
      rfl

theorem finish_taskUpToPass (ts : List Tree) :
    (interpreter.taskUpToPass .atOnce run ts).finish = interpreter.firstPass run ts := by
  induction ts with
  | nil => rfl
  | cons t ts ih =>
      rw [taskUpToPass, Task.finish_bind, firstPass]
      refine congrArg (interpreter.evaluate run t >>= ·) (funext fun r => ?_)
      cases r with
      | error e => rfl
      | ok o =>
          dsimp only
          split
          · rfl
          · exact ih

theorem evaluate_leaf (l : Leaf) :
    interpreter.evaluate run (.leaf l) = interpreter.evaluateLeaf run l :=
  Task.finish_called _ _

theorem evaluate_and (ts : List Tree) :
    interpreter.evaluate run (.combine .and ts) =
      conjunction <$> interpreter.evaluateAll run ts := by
  rw [evaluate, evaluateAt, task, Task.finish_bind, finish_taskOfAll]
  rfl

theorem evaluate_or (ts : List Tree) :
    interpreter.evaluate run (.combine .or ts) =
      (·.map (disjunction ts.length)) <$> interpreter.firstPass run ts := by
  rw [evaluate, evaluateAt, task, Task.finish_bind, finish_taskUpToPass]
  rfl

end Interpreter

end RunRadar
