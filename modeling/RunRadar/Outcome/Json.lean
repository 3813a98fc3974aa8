import RunRadar.Json.Record
import RunRadar.Outcome.Basic

/-!
# RunRadar.Outcome.Json

The **stored form** of outcomes: an object with the verdict, the filter of a leaf and the
details, where parts that are not there are left out.

Nothing in the form tells the two kinds of details apart. Read back, details that read as a
list of outcomes are operands, and null is no details; all other details are an
evaluator's. A list may stand for an outcome too, its items being the parts in order, as in
any record.
-/

namespace RunRadar

/-! ### Writing -/

mutual
/-- The stored form of an outcome. -/
def Outcome.toJson : Outcome → Json
  | .mk passed filter details =>
    let filterPart := match filter with
      | none => []
      | some id => [("filterId", .string id)]
    let detailsPart := match details with
      | none => []
      | some d => [("details", d.toJson)]
    .ofMembers (("passed", .bool passed) :: filterPart ++ detailsPart)
/-- The stored form of details. -/
def Details.toJson : Details → Json
  | .operands outcomes => .array (Outcome.toJsonAll outcomes)
  | .evaluator value => value
/-- The stored forms of outcomes. -/
def Outcome.toJsonAll : List Outcome → List Json
  | [] => []
  | o :: os => o.toJson :: Outcome.toJsonAll os
end

/-! ### Reading -/

namespace Outcome

/-- The filter of an outcome, from the part that names it. -/
def readFilter : Option Json → Option (Option String)
  | none => some none
  | some .null => some none
  | some value => value.asText?.map some

/-- An outcome from its parts, the details being read already. -/
def ofParts? (passed : Option Json) (filter : Option Json) (details : Option Details) :
    Option Outcome := do
  let passed ← passed.bind Json.asBool?
  let filter ← readFilter filter
  some (.mk passed filter details)

mutual
/-- The outcome that a JSON value stands for. -/
def ofJson? : Json → Option Outcome
  | .object fields => ofParts? (fields.get? "passed") (fields.get? "filterId") (ofFields fields)
  | .array [passed] => ofParts? passed none none
  | .array [passed, filter] => ofParts? passed filter none
  | .array [passed, filter, value] => ofParts? passed filter (ofDetails value)
  | _ => none
/-- The details among the members of an object. -/
def ofFields : {lower : Option String} → Json.Fields lower → Option Details
  | _, .nil => none
  | _, .cons key _ value rest => if key = "details" then ofDetails value else ofFields rest
/-- The details that a JSON value stands for. -/
def ofDetails : Json → Option Details
  | .null => none
  | .array items =>
    match ofJsonAll? items with
    | some outcomes => some (.operands outcomes)
    | none => some (.evaluator (.array items))
  | value => some (.evaluator value)
/-- The outcomes that all of the values stand for. -/
def ofJsonAll? : List Json → Option (List Outcome)
  | [] => some []
  | item :: items =>
    match ofJson? item, ofJsonAll? items with
    | some o, some os => some (o :: os)
    | _, _ => none
end

end Outcome

end RunRadar
