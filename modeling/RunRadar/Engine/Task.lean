import RunRadar.Engine.Basic

/-!
# RunRadar.Engine.Task

What an engine does **in turns**. A task takes its steps one after the other, and where it has to
wait for something, others have a turn before it goes on. Tasks that are joined take turns in
their order, each of them going on until it has to wait.

A call is made in one step. How long its answer is waited for is up to whoever answers, so it is
left open here: a `Pace` says of each call how many turns go by.
-/

namespace RunRadar

/-- Something that an engine does in turns. -/
inductive Task (σ α : Type) : Type 1
  | done (a : α)
  /-- A step, and what there is to do behind it. -/
  | step {β : Type} (act : Action σ β) (next : β → Task σ α)
  /-- Others have a turn. -/
  | wait (rest : Task σ α)

/-- How many turns go by before a call is answered, after the calls that were made before. -/
abbrev Pace := List Call → Call → Nat

namespace Pace

/-- All calls are answered at once. -/
def atOnce : Pace := fun _ _ => 0

/-- Evaluators answer at once, while storage has to be waited for. -/
def remoteStorage : Pace
  | _, .runMatches _ _ => 1
  | _, _ => 0

/-- How long something is waited for that puts calls on record: as long as for the first one. -/
def turns (pace : Pace) (before after : List Call) : Nat :=
  match after[before.length]? with
  | some call => pace before call
  | none => 0

/-- Does something, and tells how long it is waited for. -/
def timed {σ α : Type} (pace : Pace) (a : Action σ α) : Action σ (α × Nat) := do
  let before := (← get).calls
  let x ← a
  return (x, pace.turns before (← get).calls)

end Pace

namespace Task

variable {σ α β γ : Type}

def bind : Task σ α → (α → Task σ β) → Task σ β
  | .done a, f => f a
  | .step act next, f => .step act fun b => (next b).bind f
  | .wait rest, f => .wait (rest.bind f)

instance : Monad (Task σ) where
  pure := .done
  bind := bind

/-- Lets others have so many turns. -/
def waitFor : Nat → Task σ α → Task σ α
  | 0, t => t
  | n + 1, t => .wait (t.waitFor n)

/-- Does something in one step, and waits for what it came to. -/
def called (pace : Pace) (a : Action σ α) : Task σ α :=
  .step (pace.timed a) fun r => (Task.done r.1).waitFor r.2

/-- The turn of the second of two tasks, while the first one waits. `both` is what they do from
there on, and `alone` what the first one does behind the second. -/
def meanwhile (both : Task σ β → Task σ γ) (alone : β → Task σ γ) : Task σ β → Task σ γ
  | .done b => .wait (alone b)
  | .step act next => .step act fun b => meanwhile both alone (next b)
  | .wait rest => .wait (both rest)

/-- Two tasks that take turns, the first one first. -/
def both (join : α → β → γ) : Task σ α → Task σ β → Task σ γ
  | .done a => fun u => join a <$> u
  | .step act next => fun u => .step act fun b => both join (next b) u
  | .wait rest => meanwhile (both join rest) fun b => (join · b) <$> rest

/-- What a task comes to while nobody else has a turn. -/
def finish : Task σ α → Action σ α
  | .done a => pure a
  | .step act next => act >>= fun b => (next b).finish
  | .wait rest => rest.finish

end Task

end RunRadar
