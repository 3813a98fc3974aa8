import RunRadar.Engine.Checks
import RunRadar.Scan.Report
import RunRadar.Tree.Compile

/-!
# RunRadar.Scan.Pass

A **pass** over all radars. For each radar, a batch of the runs in its scope that have no
result yet is fetched and scored, one result per run. Checks that storage can decide take one
question for the whole batch; others are evaluated run by run.

Failures stay where they happen. A run that fails is left without a result and is fetched
again by a later pass, a radar that fails is passed over, and only a failure to list the
radars ends a pass early.
-/

namespace RunRadar

/-! ### Rules -/

/-- The trees of a radar, ready for scanning. -/
structure Rule where
  scope : Predicate
  checks : Tree

/-- The rule of a radar: both trees are well-formed, and storage can decide the scope. -/
def Radar.rule (registry : Registry) (radar : Radar) : Except ScanError Rule :=
  match radar.viewTree with
  | .error e => .error (.malformedRadar radar.id .view e)
  | .ok view =>
    match radar.checksTree with
    | .error e => .error (.malformedRadar radar.id .checks e)
    | .ok checks =>
      match view.compile registry with
      | .error e => .error (.scope radar.id e)
      | .ok scope => .ok ⟨scope, checks⟩

/-- Scans the radars of a storage. -/
structure Scanner (σ : Type) where
  storage : Storage σ
  registry : Registry
  /-- How many runs are fetched at most, for each radar in each pass. -/
  batchSize : Nat
  /-- How long the calls that a run needs are waited for. -/
  pace : Pace

namespace Scanner

variable {σ : Type} (scanner : Scanner σ)

/-! ### Runs -/

/-- Stores the verdicts of a batch. `matched` are the runs that pass. -/
def storeBatch (radar : Radar) (matched : List Uuid) : List Run → RadarStats →
    Action σ RadarStats
  | [], stats => pure stats
  | run :: runs, stats => do
    let passed := matched.contains run.id
    match ← Action.insertResult scanner.storage ⟨radar.id, run.id, passed, []⟩ with
    | .ok () => do
      Action.log (.runScored run.id passed)
      storeBatch radar matched runs (stats.record passed)
    | .error e => do
      Action.log (.resultNotStored radar.id run.id e)
      storeBatch radar matched runs stats.fail

/-- Evaluates checks on a run and stores the result. -/
def scoreRun (interpreter : Interpreter σ) (radar : Radar) (checks : Tree) (run : Run) :
    Action σ (Except EvalError Bool) := do
  match ← interpreter.runChecksAt scanner.pace run checks with
  | .error e => return .error e
  | .ok outcome => do
    let score := ⟨radar.id, run.id, outcome.passed, outcome.results⟩
    match ← Action.insertResult scanner.storage score with
    | .error e => return .error (.storage e)
    | .ok () => return .ok outcome.passed

/-- Evaluates checks on run after run. -/
def scoreEach (interpreter : Interpreter σ) (radar : Radar) (checks : Tree) :
    List Run → RadarStats → Action σ RadarStats
  | [], stats => pure stats
  | run :: runs, stats => do
    match ← scanner.scoreRun interpreter radar checks run with
    | .ok passed => do
      Action.log (.runScored run.id passed)
      scoreEach interpreter radar checks runs (stats.record passed)
    | .error e => do
      Action.log (.runNotScored radar.id run.id e)
      scoreEach interpreter radar checks runs stats.fail

/-! ### Radars -/

/-- What happens when an evaluator starts a scan. -/
abbrev Rescan (σ : Type) := Action σ (Except ScanError ScanReport)

/-- Scores a batch, in the way that the checks ask for. -/
def scoreRuns (rescan : Rescan σ) (radar : Radar) (checks : Tree) (runs : List Run)
    (stats : RadarStats) : Action σ (Except ScanError RadarStats) :=
  if checks.needsEvaluator scanner.registry then do
    let interpreter := ⟨scanner.registry, scanner.storage, rescan⟩
    return .ok (← scanner.scoreEach interpreter radar checks runs stats)
  else
    match checks.compile scanner.registry with
    | .error e => pure (.error (.checks radar.id e))
    | .ok p => do
      match ← Action.matchingIds scanner.storage (runs.map (·.id)) p with
      | .error e => return .error (.storage e)
      | .ok matched => return .ok (← scanner.storeBatch radar matched runs stats)

/-- Fetches a batch by a rule and scores it. -/
def applyRule (rescan : Rescan σ) (radar : Radar) (rule : Rule) :
    Action σ (Except ScanError RadarStats) := do
  match ← Action.fetchUnscored scanner.storage radar rule.scope scanner.batchSize with
  | .error e => return .error (.storage e)
  | .ok runs => do
    Action.log (.analyzing radar.id runs.length)
    let stats : RadarStats := { fetched := runs.length }
    if runs.isEmpty then return .ok stats
    else scanner.scoreRuns rescan radar rule.checks runs stats

/-- The part of a pass that belongs to one radar. -/
def scanRadar (rescan : Rescan σ) (radar : Radar) : Action σ (Except ScanError RadarStats) :=
  match radar.rule scanner.registry with
  | .error e => pure (.error e)
  | .ok rule => scanner.applyRule rescan radar rule

/-- The parts of several radars. -/
def scanRadars (rescan : Rescan σ) : List Radar → ScanStats → Action σ ScanStats
  | [], stats => pure stats
  | radar :: radars, stats => do
    match ← scanner.scanRadar rescan radar with
    | .ok radarStats => scanRadars rescan radars (stats.absorb radarStats)
    | .error e => do
      Action.log (.radarAborted radar.id e)
      scanRadars rescan radars stats.failRadar

/-! ### Passes -/

/-- A pass over all radars. -/
def pass (rescan : Rescan σ) : Action σ (Except ScanError ScanStats) := do
  match ← Action.listRadars scanner.storage with
  | .error e => return .error (.storage e)
  | .ok radars => do
    let stats ← scanner.scanRadars rescan radars { radars := radars.length }
    Action.log (.passComplete stats)
    return .ok stats

/-- Runs a pass if none is in progress, and gives the guard back whatever the pass came to. -/
def guarded (pass : Action σ (Except ScanError ScanStats)) :
    Action σ (Except ScanError ScanReport) := do
  let (granted, flight) := (← get).flight.tryAcquire
  if granted then
    modify fun e => { e with flight }
    let result ← pass
    modify fun e => { e with flight := e.flight.release }
    return result.map .completed
  else
    Action.log .alreadyRunning
    return .ok .skipped

/-- A scan in which evaluators start scans of their own, so many levels deep. A scan that is
started during a pass finds the guard taken and ends there, so one level is as good as any
number. -/
def scanTo : Nat → Action σ (Except ScanError ScanReport)
  | 0 => guarded (pure (.ok {}))
  | depth + 1 => guarded (scanner.pass (scanTo depth))

/-- A scan: a pass, unless one is in progress. -/
def scan : Action σ (Except ScanError ScanReport) := scanner.scanTo 1

end Scanner

end RunRadar
