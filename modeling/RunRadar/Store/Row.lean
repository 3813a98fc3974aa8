import RunRadar.Json.Reader
import RunRadar.Json.Writer
import RunRadar.Radar
import RunRadar.Run.Json

/-!
# RunRadar.Store.Row

**Rows** of a database's answers, and what they stand for. The columns of a row have the names
that the parts of runs and radars have in JSON. A column that is missing or null has no value,
times are whole microseconds, and a JSON column holds the text of a value.
-/

namespace RunRadar

/-- A row: the values of its columns. -/
abbrev Row := Json.Object

namespace Row

/-- What a JSON column holds, unless it is null. -/
def jsonColumn? (value : Json) : Option Json :=
  if value.isNull then none else Json.read? value.text

/-- What a JSON column holds that may be null. -/
def optionalJsonColumn? : Option Json → Option (Option Json)
  | none => some none
  | some value => (jsonColumn? value).map some

/-- The radar of a row. -/
def radar? (row : Row) : Option Radar := do
  let radar ← Radar.ofJson? (.object row)
  let view ← jsonColumn? radar.view
  let checks ← jsonColumn? radar.checks
  return { radar with
    view, checks
    createdAt := radar.createdAt.toMicros
    updatedAt := radar.updatedAt.map Instant.toMicros }

/-- The run of a row. -/
def run? (row : Row) : Option Run := do
  let run ← Run.ofJson? (.object row)
  let input ← optionalJsonColumn? run.input
  let output ← optionalJsonColumn? run.output
  let metadata ← optionalJsonColumn? run.metadata
  return { run with
    input, output, metadata
    createdAt := run.createdAt.toMicros
    endedAt := run.endedAt.map Instant.toMicros }

/-- The value of a column that has to have one. -/
def column? {α : Type} (row : Row) (name : String) (read : Json → Option α) : Option α :=
  Json.Parts.required row.get? name read

/-- The identifier of a row. -/
def id? (row : Row) : Option Uuid := row.column? "id" Json.asUuid?

/-- The answer to the question whether there is something. -/
def exists? (row : Row) : Option Bool := row.column? "exists" Json.asBool?

end Row

end RunRadar
