import RunRadar.Radar
import RunRadar.Store.Error
import RunRadar.Tree.CompileError

/-!
# RunRadar.Scan.Report

What a **scan pass** comes to: the counters of a pass that went through, or why it, or one
radar's part of it, failed.
-/

namespace RunRadar

/-- Why a pass, or one radar's part of it, failed. -/
inductive ScanError
  | malformedRadar (radar : Uuid) (tree : RadarTree) (fault : TreeError)
  | scope (radar : Uuid) (fault : CompileError)
  | checks (radar : Uuid) (fault : CompileError)
  | storage (fault : StoreError)
deriving DecidableEq

def ScanError.message : ScanError → String
  | .malformedRadar radar tree fault =>
    "radar " ++ radar.text ++ " has malformed " ++ tree.name ++ ": " ++ fault.message
  | .scope radar fault =>
    "radar " ++ radar.text ++ " scope cannot be pushed to storage: " ++ fault.message
  | .checks radar fault => "radar " ++ radar.text ++ " checks cannot be compiled: " ++ fault.message
  | .storage fault => fault.message

/-- Counters of one radar's part of a pass. -/
structure RadarStats where
  fetched : Nat := 0
  scored : Nat := 0
  passed : Nat := 0
  errored : Nat := 0
deriving DecidableEq

namespace RadarStats

/-- Counts a run with a stored result. -/
def record (stats : RadarStats) (passed : Bool) : RadarStats :=
  { stats with
    scored := stats.scored + 1
    passed := if passed then stats.passed + 1 else stats.passed }

/-- Counts a run that stays without a result. -/
def fail (stats : RadarStats) : RadarStats := { stats with errored := stats.errored + 1 }

end RadarStats

/-- Counters of a pass. -/
structure ScanStats where
  radars : Nat := 0
  radarsFailed : Nat := 0
  runsFetched : Nat := 0
  /-- Runs with a result stored in this pass. -/
  runsScored : Nat := 0
  runsPassed : Nat := 0
  runsNotPassed : Nat := 0
  /-- Runs left without a result, since scoring or storing failed. -/
  runsErrored : Nat := 0
deriving DecidableEq

namespace ScanStats

/-- Adds the counters of a radar. -/
def absorb (stats : ScanStats) (radar : RadarStats) : ScanStats :=
  { stats with
    runsFetched := stats.runsFetched + radar.fetched
    runsScored := stats.runsScored + radar.scored
    runsPassed := stats.runsPassed + radar.passed
    runsNotPassed := stats.runsNotPassed + (radar.scored - radar.passed)
    runsErrored := stats.runsErrored + radar.errored }

/-- Counts a radar that failed. -/
def failRadar (stats : ScanStats) : ScanStats :=
  { stats with radarsFailed := stats.radarsFailed + 1 }

end ScanStats

/-- What a scan did. -/
inductive ScanReport
  /-- Another pass was in progress. -/
  | skipped
  | completed (stats : ScanStats)
deriving DecidableEq

end RunRadar
