import RunRadar.Predicate.Match
import RunRadar.Store.Basic

/-!
# RunRadar.Store.Memory

A **storage in memory**: lists of radars, runs and results, each in order of insertion.
Conditions are decided in process. Collections can be made to fail, for all requests of a
kind or for single radars and runs.
-/

namespace RunRadar

/-- The requests that fail. They fail whenever they are made, and single ones are told apart by
their radar or their run only. So a run that cannot be tested fails for all conditions, and one
whose results cannot be stored for all radars. -/
structure Faults where
  list : Bool := false
  matching : Bool := false
  /-- Radars whose runs cannot be fetched. -/
  fetch : List Uuid := []
  /-- Runs that cannot be tested. -/
  runMatches : List Uuid := []
  /-- Runs whose results cannot be stored. -/
  insert : List Uuid := []

/-- A store in memory. -/
structure Memory where
  radars : List Radar := []
  runs : List Run := []
  results : List Score := []
  faults : Faults := {}

namespace Memory

/-- The store without anything in it. -/
def empty : Memory := {}

instance : Inhabited Memory := ⟨empty⟩

def addRadar (m : Memory) (radar : Radar) : Memory := { m with radars := m.radars ++ [radar] }

def addRun (m : Memory) (run : Run) : Memory := { m with runs := m.runs ++ [run] }

/-- Whether a run has a result for a radar. -/
def isScored (m : Memory) (radar run : Uuid) : Bool :=
  m.results.any fun score => score.radar = radar && score.run = run

/-- The runs that a radar can still score, in order of insertion. -/
def eligible (m : Memory) (radar : Radar) (scope : Predicate) : List Run :=
  m.runs.filter fun run =>
    run.project = radar.project && !m.isScored radar.id run.id && scope.holds run

/-- Runs in order of their creation. Runs created at the same instant keep their order. -/
def oldestFirst (runs : List Run) : List Run :=
  runs.mergeSort fun a b => a.createdAt.le b.createdAt

/-- The oldest runs that a radar can still score, up to the limit. -/
def unscored (m : Memory) (radar : Radar) (scope : Predicate) (limit : Nat) : List Run :=
  (oldestFirst (m.eligible radar scope)).take limit

/-- The stored runs with the given identifiers that satisfy a condition. -/
def matchingIds (m : Memory) (ids : List Uuid) (p : Predicate) : List Uuid :=
  Uuid.distinctSorted ((m.runs.filter fun run => ids.contains run.id && p.holds run).map (·.id))

/-- The results of a radar, in order of insertion. -/
def resultsFor (m : Memory) (radar : Uuid) : List Score := m.results.filter (·.radar = radar)

/-- An answer, unless the request fails on a collection. -/
def answer {α : Type} (fails : Bool) (collection : Collection) (value : α) :
    Except StoreError α :=
  if fails then .error (.poisoned collection) else .ok value

/-- The requests to a store in memory. -/
def storage : Storage Memory where
  listRadars := fun m => (answer m.faults.list .radars m.radars, m)
  fetchUnscored := fun radar scope limit m =>
    (answer (m.faults.fetch.contains radar.id) .runs (m.unscored radar scope limit), m)
  runMatches := fun run p m =>
    (answer (m.faults.runMatches.contains run.id) .runs (p.holds run), m)
  matchingIds := fun ids p m => (answer m.faults.matching .runs (m.matchingIds ids p), m)
  insertResult := fun score m =>
    if m.faults.insert.contains score.run then (.error (.poisoned .results), m)
    else (.ok (), { m with results := m.results ++ [score] })

end Memory

end RunRadar
