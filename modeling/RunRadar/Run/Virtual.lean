import RunRadar.Run.Basic

/-!
# RunRadar.Run.Virtual

**Virtual runs**: calls of a model that were put together in memory and never stored, such as
the answers of a prompt that is being tried out.
-/

namespace RunRadar

/-- A call that was never stored. -/
structure VirtualRun where
  model : Option String := none
  input : Option Json := none
  output : Option Json := none
  promptTokens : Option Int := none
  completionTokens : Option Int := none
  cost : Option Binary64 := none
  durationMs : Option Int := none
  tags : Option (List String) := none
  metadata : Option Json := none
deriving DecidableEq

namespace VirtualRun

/-- The run of a call that ended at `endedAt`: a successful call of a model. -/
def runUntil (v : VirtualRun) (createdAt : Instant) (endedAt : Option Instant) : Run where
  id := .nil
  project := .nil
  kind := "llm"
  name := v.model
  status := some "success"
  input := v.input
  output := v.output
  tags := v.tags
  metadata := v.metadata
  promptTokens := v.promptTokens
  completionTokens := v.completionTokens
  cost := v.cost
  externalUser := none
  createdAt := createdAt
  endedAt := endedAt

/-- The run of a call that was created at the given instant. There is none when the call would end
beyond the last instant, or before the first one. -/
def toRun? (v : VirtualRun) (createdAt : Instant) : Option Run :=
  match v.durationMs with
  | none => some (v.runUntil createdAt none)
  | some millis => (createdAt.addMillis? millis).map fun t => v.runUntil createdAt (some t)

end VirtualRun

end RunRadar
