import RunRadar.Outcome.Json
import RunRadar.Radar
import RunRadar.Sql.Condition

/-!
# RunRadar.Sql.Query

The **statements of the engine**: what it sends to list radars, to fetch and to test runs,
to store results, and to keep radars.
-/

namespace RunRadar.Sql

/-! ### Scanning -/

/-- The columns of a run. -/
def runColumns : String :=
  "r.id, r.project_id, r.type, r.name, r.status, r.input, r.output, r.tags, r.metadata, " ++
    "r.prompt_tokens, r.completion_tokens, r.cost, r.external_user_id, r.created_at, r.ended_at"

/-- The columns of a radar. -/
def radarColumns : String :=
  "id, project_id, owner_id, description, view, checks, created_at, updated_at"

/-- All radars, oldest first. -/
def listRadars : Statement :=
  .fixed ("SELECT " ++ radarColumns ++ " FROM radar ORDER BY created_at ASC") []

/-- The oldest runs of a project that are in scope and have no result for the radar. -/
def unscoredRuns (project radar : Uuid) (scope : Predicate) (limit : Nat) : Statement :=
  .ofPieces <|
    [.sql ("SELECT " ++ runColumns ++ " FROM run r WHERE r.project_id = "),
     .bind (.uuid project), .sql " AND "] ++
    scope.pieces ++
    [.sql " AND NOT EXISTS (SELECT 1 FROM radar_result rr WHERE rr.radar_id = ",
     .bind (.uuid radar),
     .sql " AND rr.run_id = r.id) ORDER BY r.created_at ASC LIMIT ",
     .bind (.integer limit)]

/-- Whether a run satisfies a condition. -/
def runMatches (run : Uuid) (predicate : Predicate) : Statement :=
  .ofPieces <|
    [.sql "SELECT EXISTS (SELECT 1 FROM run r WHERE r.id = ", .bind (.uuid run), .sql " AND "] ++
    predicate.pieces ++ [.sql ")"]

/-- The runs among the given ones that satisfy a condition. -/
def matchingIds (ids : List Uuid) (predicate : Predicate) : Statement :=
  .ofPieces <|
    [.sql "SELECT r.id FROM run r WHERE r.id = ANY(", .bind (.uuids ids), .sql ") AND "] ++
    predicate.pieces

/-- Stores a result. -/
def insertResult (score : Score) : Statement :=
  .fixed "INSERT INTO radar_result (radar_id, run_id, passed, results) VALUES ($1, $2, $3, $4)"
    [.uuid score.radar, .uuid score.run, .bool score.passed,
     .json (.array (Outcome.toJsonAll score.results))]

/-! ### Keeping radars -/

/-- A radar with the number of its passed and of its failed results. -/
def selectSummary : String :=
  "SELECT r.id, r.project_id, r.owner_id, r.description, r.view, r.checks, r.created_at, " ++
    "r.updated_at, COUNT(rr.id) FILTER (WHERE rr.passed) AS passed, " ++
    "COUNT(rr.id) FILTER (WHERE NOT rr.passed) AS failed " ++
    "FROM radar r LEFT JOIN radar_result rr ON rr.radar_id = r.id"

/-- The radars of a project, newest first. -/
def listSummaries (project : Uuid) : Statement :=
  .fixed (selectSummary ++ " WHERE r.project_id = $1 GROUP BY r.id ORDER BY r.created_at DESC")
    [.uuid project]

/-- One radar of a project. -/
def getSummary (project id : Uuid) : Statement :=
  .fixed (selectSummary ++ " WHERE r.id = $1 AND r.project_id = $2 GROUP BY r.id")
    [.uuid id, .uuid project]

/-- Stores a new radar. -/
def createRadar (project : Uuid) (owner : Option Uuid) (description : Option String)
    (view checks : Json) : Statement :=
  .fixed
    ("INSERT INTO radar (project_id, owner_id, description, view, checks) " ++
      "VALUES ($1, $2, $3, $4, $5) RETURNING " ++ radarColumns)
    [.uuid project, .ofOption .uuid owner, .ofOption .text description, .json view, .json checks]

/-- Changes the parts of a radar that are given. -/
def updateRadar (project id : Uuid) (description : Option String) (view checks : Option Json) :
    Statement :=
  .fixed
    ("UPDATE radar SET description = COALESCE($3, description), view = COALESCE($4, view), " ++
      "checks = COALESCE($5, checks), updated_at = now() WHERE id = $1 AND project_id = $2 " ++
      "RETURNING " ++ radarColumns)
    [.uuid id, .uuid project, .ofOption .text description, .ofOption .json view,
     .ofOption .json checks]

/-- Removes a radar. -/
def deleteRadar (project id : Uuid) : Statement :=
  .fixed "DELETE FROM radar WHERE id = $1 AND project_id = $2" [.uuid id, .uuid project]

/-- Passed and failed results of a radar by day, over the last seven days. -/
def chart (project id : Uuid) : Statement :=
  .fixed
    ("WITH days AS ( SELECT generate_series((current_date - 6)::timestamp, " ++
      "current_date::timestamp, interval '1 day')::date AS day ) " ++
      "SELECT d.day, COUNT(rr.id) FILTER (WHERE rr.passed) AS passed, " ++
      "COUNT(rr.id) FILTER (WHERE NOT rr.passed) AS failed FROM days d LEFT JOIN ( " ++
      "SELECT rr.id, rr.passed, r.created_at AS run_created_at FROM radar_result rr " ++
      "JOIN run r ON r.id = rr.run_id WHERE rr.radar_id = $1 AND r.project_id = $2 ) rr " ++
      "ON rr.run_created_at::date = d.day GROUP BY d.day ORDER BY d.day ASC")
    [.uuid id, .uuid project]

end RunRadar.Sql
