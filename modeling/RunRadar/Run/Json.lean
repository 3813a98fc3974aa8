import RunRadar.Json.Record
import RunRadar.Run.Basic

/-!
# RunRadar.Run.Json

The **JSON form** of runs. Identifier, project, type and creation time are required; a
written run names every part, missing ones as null.
-/

namespace RunRadar.Run

/-- The names of the parts, in their order. -/
def partNames : List String :=
  ["id", "projectId", "type", "name", "status", "input", "output", "tags", "metadata",
    "promptTokens", "completionTokens", "cost", "externalUserId", "createdAt", "endedAt"]

/-- The run that a JSON value stands for. -/
def ofJson? (value : Json) : Option Run := do
  let parts ← value.parts? partNames partNames.length
  let id ← parts.required "id" Json.asUuid?
  let project ← parts.required "projectId" Json.asUuid?
  let kind ← parts.required "type" Json.asText?
  let name ← parts.optional "name" Json.asText?
  let status ← parts.optional "status" Json.asText?
  let input ← parts.optional "input" some
  let output ← parts.optional "output" some
  let tags ← parts.optional "tags" Json.asTexts?
  let metadata ← parts.optional "metadata" some
  let promptTokens ← parts.optional "promptTokens" Json.asInt32?
  let completionTokens ← parts.optional "completionTokens" Json.asInt32?
  let cost ← parts.optional "cost" Json.asDouble?
  let externalUser ← parts.optional "externalUserId" Json.asInt64?
  let createdAt ← parts.required "createdAt" Json.asInstant?
  let endedAt ← parts.optional "endedAt" Json.asInstant?
  return { id, project, kind, name, status, input, output, tags, metadata, promptTokens,
           completionTokens, cost, externalUser, createdAt, endedAt }

/-- The JSON form of a run. -/
def toJson (run : Run) : Json :=
  .ofMembers
    [("id", .ofUuid run.id),
     ("projectId", .ofUuid run.project),
     ("type", .string run.kind),
     ("name", .ofOption .string run.name),
     ("status", .ofOption .string run.status),
     ("input", run.input.getD .null),
     ("output", run.output.getD .null),
     ("tags", .ofOption .ofTexts run.tags),
     ("metadata", run.metadata.getD .null),
     ("promptTokens", .ofOption .ofInt run.promptTokens),
     ("completionTokens", .ofOption .ofInt run.completionTokens),
     ("cost", .ofOption .ofDouble run.cost),
     ("externalUserId", .ofOption .ofInt run.externalUser),
     ("createdAt", .ofInstant run.createdAt),
     ("endedAt", .ofOption .ofInstant run.endedAt)]

end RunRadar.Run
