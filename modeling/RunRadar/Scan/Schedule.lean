import RunRadar.Scan.Pass

/-!
# RunRadar.Scan.Schedule

Scanning **on a schedule**: a scan at the start and after every further period, until the
shutdown. What a scan comes to goes to the log. A scan of a storage in memory takes no time on
this clock, so each one is finished when the next is due.
-/

namespace RunRadar.Scanner

variable {σ : Type} (scanner : Scanner σ)

/-- What a finished scan leaves in the log. -/
def outcomeEvent? : Except ScanError ScanReport → Option LogEvent
  | .ok .skipped => none
  | .ok (.completed _) => some .passFinished
  | .error e => some (.passFailed e)

/-- A scheduled scan. Nobody waits for what it comes to. -/
def tick : Action σ Unit := do
  match outcomeEvent? (← scanner.scan) with
  | none => return ()
  | some event => Action.log event

/-- So many scheduled scans, one after the other. -/
def ticks : Nat → Action σ Unit
  | 0 => pure ()
  | n + 1 => do
    scanner.tick
    ticks n

/-- How many scans are due before the shutdown, when one is due at every multiple of the
period. -/
def dueBefore (period shutdown : Nat) : Nat := (shutdown + period - 1) / period

/-- Scans at every multiple of the period before the shutdown. When scans have been started,
the one that was started last is waited for. -/
def runUntil (period shutdown : Nat) : Action σ Unit := do
  let due := dueBefore period shutdown
  scanner.ticks due
  if due = 0 then return () else Action.log (.waiting 1)

end RunRadar.Scanner
