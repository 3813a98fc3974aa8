import RunRadar.Engine.Event
import RunRadar.Scan.Flight
import RunRadar.Store.Basic

/-!
# RunRadar.Engine.Basic

The **engine over a storage**: the storage's state, the guard of its scans, and the record of
what it has done. Everything the engine does is an action on that state, and every storage
call goes through one of the actions here, so that it is put on record.
-/

namespace RunRadar

/-- An engine over a storage with states `σ`. -/
structure Engine (σ : Type) where
  store : σ
  flight : Flight := .idle
  /-- How many times evaluators have been consulted. -/
  consultations : Nat := 0
  calls : List Call := []
  log : List LogEvent := []

/-- Something that an engine does. -/
abbrev Action (σ α : Type) := StateM (Engine σ) α

namespace Engine

/-- The engine before it has done anything. -/
def start {σ : Type} (store : σ) : Engine σ := { store }

end Engine

namespace Action

variable {σ α : Type}

/-- Puts a call on record. -/
def call (c : Call) : Action σ Unit := modify fun e => { e with calls := e.calls ++ [c] }

/-- Writes an event to the log. -/
def log (event : LogEvent) : Action σ Unit := modify fun e => { e with log := e.log ++ [event] }

/-- A step of the storage. -/
def onStore (step : StoreStep σ α) : Action σ (Except StoreError α) := fun e =>
  let (answer, store) := step e.store
  (answer, { e with store })

/-! ### Storage calls -/

/-- A storage call that is put on record once it is answered. -/
def recorded (step : StoreStep σ α) (entry : Except StoreError α → Call) :
    Action σ (Except StoreError α) := do
  let answer ← onStore step
  call (entry answer)
  return answer

def listRadars (storage : Storage σ) : Action σ (Except StoreError (List Radar)) :=
  recorded storage.listRadars fun _ => .listRadars

/-- The identifiers of what a call answered, none if it failed. -/
def idsOf (ids : α → List Uuid) : Except StoreError α → List Uuid
  | .ok a => ids a
  | .error _ => []

def fetchUnscored (storage : Storage σ) (radar : Radar) (scope : Predicate) (limit : Nat) :
    Action σ (Except StoreError (List Run)) :=
  recorded (storage.fetchUnscored radar scope limit) fun answer =>
    .fetchUnscored radar.id scope limit (idsOf (·.map (·.id)) answer)

def runMatches (storage : Storage σ) (run : Run) (p : Predicate) :
    Action σ (Except StoreError Bool) :=
  recorded (storage.runMatches run p) fun _ => .runMatches run.id p

def matchingIds (storage : Storage σ) (ids : List Uuid) (p : Predicate) :
    Action σ (Except StoreError (List Uuid)) :=
  recorded (storage.matchingIds ids p) fun answer => .matchingIds ids p (idsOf id answer)

def insertResult (storage : Storage σ) (score : Score) : Action σ (Except StoreError Unit) :=
  recorded (storage.insertResult score) fun _ => .insertResult score

end Action

end RunRadar
