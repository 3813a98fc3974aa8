import RunRadar.Engine.Basic
import RunRadar.Roster.Draft
import RunRadar.Store.Session

/-!
# RunRadar.Roster.Basic

The **roster** of a project: its radars, as the database keeps them. Whatever is asked for is
asked for one project, and only trees that are well-formed are ever sent to be stored.
-/

namespace RunRadar

/-- A radar with the number of its results. -/
structure RadarSummary where
  radar : Radar
  passed : Int
  failed : Int
deriving DecidableEq

/-- The results of one day. -/
structure ChartPoint where
  day : Date
  passed : Int
  failed : Int
deriving DecidableEq

/-- Why a request about radars came to nothing. -/
inductive RosterError
  | invalid (fault : InvalidTree)
  | notFound (radar : Uuid)
  | storage (fault : StoreError)
deriving DecidableEq

def RosterError.message : RosterError → String
  | .invalid fault => fault.message
  | .notFound radar => "radar not found: " ++ radar.text
  | .storage fault => fault.message

/-! ### Forms -/

def RadarSummary.toJson (s : RadarSummary) : Json :=
  .ofMembers (s.radar.members ++ [("passed", .ofInt s.passed), ("failed", .ofInt s.failed)])

def ChartPoint.toJson (p : ChartPoint) : Json :=
  .ofMembers
    [("day", .string p.day.text), ("passed", .ofInt p.passed), ("failed", .ofInt p.failed)]

namespace Row

/-- A date. -/
def asDate? (value : Json) : Option Date := value.asText?.bind Date.read?

/-- The radar of a row that also counts its results. -/
def summary? (row : Row) : Option RadarSummary := do
  let radar ← row.radar?
  let passed ← row.column? "passed" Json.asInt64?
  let failed ← row.column? "failed" Json.asInt64?
  return { radar, passed, failed }

/-- The results of the day of a row. -/
def chartPoint? (row : Row) : Option ChartPoint := do
  let day ← row.column? "day" asDate?
  let passed ← row.column? "passed" Json.asInt64?
  let failed ← row.column? "failed" Json.asInt64?
  return { day, passed, failed }

end Row

/-! ### Requests -/

namespace Roster

/-- Sends a statement and makes something of the reply. -/
def ask {α : Type} (statement : Sql.Statement) (use : Reply → Except StoreError α) :
    Action Session (Except RosterError α) := do
  return (← Action.onStore (Session.ask statement use)).mapError .storage

/-- The radars of a project. -/
def list (project : Uuid) : Action Session (Except RosterError (List RadarSummary)) :=
  ask (Sql.listSummaries project) (Reply.readAll Row.summary?)

/-- One radar of a project. -/
def find? (project id : Uuid) : Action Session (Except RosterError (Option RadarSummary)) :=
  ask (Sql.getSummary project id) (Reply.readFirst Row.summary?)

/-- Adds a radar. -/
def add (project : Uuid) (owner : Option Uuid) (draft : RadarDraft) :
    Action Session (Except RosterError Radar) :=
  match draft.validate with
  | .error e => pure (.error (.invalid e))
  | .ok () => do
    let statement := Sql.createRadar project owner draft.description draft.view draft.checks
    match ← ask statement (Reply.readOne Row.radar?) with
    | .error e => return .error e
    | .ok radar => do
      Action.log (.radarCreated radar.id project)
      return .ok radar

/-- Changes a radar. -/
def change (project id : Uuid) (c : RadarChange) :
    Action Session (Except RosterError Radar) :=
  match c.validate with
  | .error e => pure (.error (.invalid e))
  | .ok () => do
    let statement := Sql.updateRadar project id c.description c.view c.checks
    match ← ask statement (Reply.readFirst Row.radar?) with
    | .error e => return .error e
    | .ok none => return .error (.notFound id)
    | .ok (some radar) => return .ok radar

/-- Removes a radar, and its results with it. -/
def remove (project id : Uuid) : Action Session (Except RosterError Unit) := do
  match ← ask (Sql.deleteRadar project id) Reply.count with
  | .error e => return .error e
  | .ok n => return if n = 0 then .error (.notFound id) else .ok ()

/-- The results of a radar, by day. -/
def chart (project id : Uuid) : Action Session (Except RosterError (List ChartPoint)) :=
  ask (Sql.chart project id) (Reply.readAll Row.chartPoint?)

/-- Adds radars up to the first one that cannot be added. -/
def addAll (project : Uuid) (owner : Option Uuid) :
    List RadarDraft → Action Session (Except RosterError (List Radar))
  | [] => pure (.ok [])
  | draft :: drafts => do
    match ← add project owner draft with
    | .error e => return .error e
    | .ok radar => return (← addAll project owner drafts).map (radar :: ·)

/-- Adds the radars that a new project is offered. -/
def seed (project : Uuid) (owner : Option Uuid) :
    Action Session (Except RosterError (List Radar)) :=
  addAll project owner RadarDraft.defaults

end Roster

end RunRadar
