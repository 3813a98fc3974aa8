import RunRadar.Instant
import RunRadar.Json.Writer
import RunRadar.Uuid

/-!
# RunRadar.Run.Basic

**Runs**: captured calls of a language model, as the engine sees them. A run is only ever
read. From its parts follow a duration, a token count and the plain text of its input and
its output.
-/

namespace RunRadar

/-- A captured call. -/
structure Run where
  id : Uuid
  project : Uuid
  kind : String
  /-- The model, for calls of a model. -/
  name : Option String
  status : Option String
  input : Option Json
  output : Option Json
  tags : Option (List String)
  metadata : Option Json
  promptTokens : Option Int
  completionTokens : Option Int
  cost : Option Binary64
  externalUser : Option Int
  createdAt : Instant
  endedAt : Option Instant
deriving DecidableEq

/-- The two payloads of a run that hold text. -/
inductive Payload
  | input
  | output
deriving DecidableEq

namespace Payload

def ofName? (name : String) : Option Payload :=
  if name = "input" then some .input else if name = "output" then some .output else none

end Payload

/-! ### Flattening -/

namespace Json

/-- The string under `content`, for a message. -/
def messageContent? (fields : Object) : Option String :=
  match fields.get? "content" with
  | some (.string content) => some content
  | _ => none

mutual
/-- The plain text of a payload. Strings are themselves, messages are their contents, the
texts of a list stand on lines of their own, and everything else is its compact JSON text.
Null has no text. -/
def plainText? : Json → Option String
  | .null => none
  | .string s => some s
  | .array items => some ("\n".intercalate (plainTexts items))
  | .object fields =>
    match messageContent? fields with
    | some content => some content
    | none => some (Json.text (.object fields))
  | .bool b => some (Json.text (.bool b))
  | .number n => some (Json.text (.number n))
/-- The plain texts of the items that have one. -/
def plainTexts : List Json → List String
  | [] => []
  | item :: items =>
    match plainText? item with
    | none => plainTexts items
    | some s => s :: plainTexts items
end

end Json

namespace Run

/-- The payload of a run. -/
def payload? (run : Run) : Payload → Option Json
  | .input => run.input
  | .output => run.output

/-- The plain text of a payload. -/
def text? (run : Run) (p : Payload) : Option String := (run.payload? p).bind Json.plainText?

/-- The duration of a run that has ended, in whole milliseconds. -/
def durationMs? (run : Run) : Option Int := run.endedAt.map (·.millisSince run.createdAt)

/-- The tokens of prompt and completion together, a missing count being zero. -/
def totalTokens (run : Run) : Int := run.promptTokens.getD 0 + run.completionTokens.getD 0

end Run

end RunRadar
