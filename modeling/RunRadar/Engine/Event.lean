import RunRadar.Filter.Basic

/-!
# RunRadar.Engine.Event

What the engine leaves **on record**: its calls of storage and evaluators with what they came
to, and the events of its log.
-/

namespace RunRadar

/-! ### Errors -/

/-- Why a tree has no verdict on a run. -/
inductive EvalError
  /-- Rejected before the filter was asked. -/
  | params (fault : ParamError)
  | evaluator (fault : EvaluatorError)
  | storage (fault : StoreError)
deriving DecidableEq

def EvalError.message : EvalError → String
  | .params fault => fault.message
  | .evaluator fault => fault.message
  | .storage fault => fault.message

/-! ### Calls -/

/-- A call that the engine has made. What a storage call fetched or matched is empty when the
call failed. -/
inductive Call
  | listRadars
  | fetchUnscored (radar : Uuid) (scope : Predicate) (limit : Nat) (runs : List Uuid)
  | runMatches (run : Uuid) (predicate : Predicate)
  | matchingIds (ids : List Uuid) (predicate : Predicate) (matched : List Uuid)
  | insertResult (score : Score)
  /-- The evaluator of a filter is asked about a run. -/
  | consult (filter : String) (run : Uuid)
  /-- An evaluator has started a scan; whether another one was in progress before, and what it
  came to. -/
  | rescanned (running : Bool) (report : Except ScanError ScanReport)

/-! ### Log -/

/-- How much an event matters. -/
inductive Level
  | debug
  | info
  | warn
  | error
deriving DecidableEq

def Level.name : Level → String
  | .debug => "DEBUG"
  | .info => "INFO"
  | .warn => "WARN"
  | .error => "ERROR"

/-- An event of the log. -/
inductive LogEvent
  | alreadyRunning
  | analyzing (radar : Uuid) (runs : Nat)
  | runScored (run : Uuid) (passed : Bool)
  /-- The verdict of a run decided by storage was not stored. -/
  | resultNotStored (radar run : Uuid) (fault : StoreError)
  /-- A run has no verdict, or its verdict was not stored. -/
  | runNotScored (radar run : Uuid) (fault : EvalError)
  | radarAborted (radar : Uuid) (fault : ScanError)
  | passComplete (stats : ScanStats)
  | passFinished
  | passFailed (fault : ScanError)
  | waiting (pending : Nat)
  | radarCreated (radar project : Uuid)
  | connected (host database : String)
  | migrated
  /-- A line of the summary of a configuration. -/
  | setting (line : String)
deriving DecidableEq

namespace LogEvent

def level : LogEvent → Level
  | .alreadyRunning => .warn
  | .runScored .. => .debug
  | .resultNotStored .. => .error
  | .runNotScored .. => .error
  | .radarAborted .. => .error
  | .passFinished => .debug
  | .passFailed _ => .error
  | _ => .info

def message : LogEvent → String
  | .alreadyRunning => "radar scan already running, skipping"
  | .analyzing .. => "analyzing runs for radar"
  | .runScored .. => "run scored"
  | .resultNotStored .. => "failed to store radar result"
  | .runNotScored .. => "failed to score run"
  | .radarAborted .. => "radar scan aborted"
  | .passComplete _ => "radar scan complete"
  | .passFinished => "radar scan finished"
  | .passFailed _ => "radar scan failed"
  | .waiting _ => "waiting for running scans to finish"
  | .radarCreated .. => "radar created"
  | .connected .. => "PostgreSQL connected"
  | .migrated => "Database migrations applied successfully"
  | .setting line => line

/-- The named values that stand beside the message. -/
def fields : LogEvent → List (String × Json)
  | .alreadyRunning => []
  | .analyzing radar runs => [("radar_id", .ofUuid radar), ("runs", .ofInt runs)]
  | .runScored run passed => [("run_id", .ofUuid run), ("passed", .bool passed)]
  | .resultNotStored radar run fault =>
    [("radar_id", .ofUuid radar), ("run_id", .ofUuid run), ("error", .string fault.message)]
  | .runNotScored radar run fault =>
    [("radar_id", .ofUuid radar), ("run_id", .ofUuid run), ("error", .string fault.message)]
  | .radarAborted radar fault => [("radar_id", .ofUuid radar), ("error", .string fault.message)]
  | .passComplete stats =>
    [("radars", .ofInt stats.radars), ("radars_failed", .ofInt stats.radarsFailed),
     ("runs_scored", .ofInt stats.runsScored), ("runs_passed", .ofInt stats.runsPassed),
     ("runs_not_passed", .ofInt stats.runsNotPassed), ("runs_errored", .ofInt stats.runsErrored)]
  | .passFinished => []
  | .passFailed fault => [("error", .string fault.message)]
  | .waiting pending => [("pending", .ofInt pending)]
  | .radarCreated radar project =>
    [("radar_id", .ofUuid radar), ("project_id", .ofUuid project)]
  | .connected host database => [("host", .string host), ("database", .string database)]
  | .migrated => []
  | .setting _ => []

end LogEvent

end RunRadar
