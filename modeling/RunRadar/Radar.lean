import RunRadar.Json.Record
import RunRadar.Outcome.Basic
import RunRadar.Tree.Json

/-!
# RunRadar.Radar

**Radars**: stored rules. The scope (`view`) says which runs of the project a radar looks at,
the checks say which of them pass. Both are kept as the JSON they came as, so that a radar
with a malformed tree can still be listed, and are parsed whenever they are needed.
-/

namespace RunRadar

/-- A stored rule. -/
structure Radar where
  id : Uuid
  project : Uuid
  owner : Option Uuid
  description : Option String
  view : Json
  checks : Json
  createdAt : Instant
  updatedAt : Option Instant
deriving DecidableEq

/-- The verdict of a radar on a run, with what its checks came to. -/
structure Score where
  radar : Uuid
  run : Uuid
  passed : Bool
  results : List Outcome
deriving DecidableEq

/-- The two trees of a radar. -/
inductive RadarTree
  | view
  | checks
deriving DecidableEq

def RadarTree.name : RadarTree → String
  | .view => "view"
  | .checks => "checks"

namespace Radar

/-- The scope, parsed. -/
def viewTree (radar : Radar) : Except TreeError Tree := Tree.ofJson radar.view

/-- The checks, parsed. -/
def checksTree (radar : Radar) : Except TreeError Tree := Tree.ofJson radar.checks

/-- The names of the parts, in their order. -/
def partNames : List String :=
  ["id", "projectId", "ownerId", "description", "view", "checks", "createdAt", "updatedAt"]

/-- The radar that a JSON value stands for. The trees have to be there, but may be null. -/
def ofJson? (value : Json) : Option Radar := do
  let parts ← value.parts? partNames partNames.length
  let id ← parts.required "id" Json.asUuid?
  let project ← parts.required "projectId" Json.asUuid?
  let owner ← parts.optional "ownerId" Json.asUuid?
  let description ← parts.optional "description" Json.asText?
  let view ← parts "view"
  let checks ← parts "checks"
  let createdAt ← parts.required "createdAt" Json.asInstant?
  let updatedAt ← parts.optional "updatedAt" Json.asInstant?
  return { id, project, owner, description, view, checks, createdAt, updatedAt }

/-- The members of a written radar. -/
def members (radar : Radar) : List (String × Json) :=
  [("id", .ofUuid radar.id),
   ("projectId", .ofUuid radar.project),
   ("ownerId", .ofOption .ofUuid radar.owner),
   ("description", .ofOption .string radar.description),
   ("view", radar.view),
   ("checks", radar.checks),
   ("createdAt", .ofInstant radar.createdAt),
   ("updatedAt", .ofOption .ofInstant radar.updatedAt)]

/-- The JSON form of a radar. -/
def toJson (radar : Radar) : Json := .ofMembers radar.members

end Radar

end RunRadar
