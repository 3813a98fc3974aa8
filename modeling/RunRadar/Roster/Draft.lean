import RunRadar.Radar

/-!
# RunRadar.Roster.Draft

**Requests to keep radars**: drafts of new ones, and changes of those that are there. Both
trees of a request have to be well-formed; the scope is looked at first.
-/

namespace RunRadar

/-- A radar that is to be added. -/
structure RadarDraft where
  description : Option String
  view : Json
  checks : Json
deriving DecidableEq

/-- What is to change about a radar. Parts that are not given stay. -/
structure RadarChange where
  description : Option String := none
  view : Option Json := none
  checks : Option Json := none
deriving DecidableEq

/-- A tree of a request that is malformed. -/
structure InvalidTree where
  tree : RadarTree
  fault : TreeError
deriving DecidableEq

def InvalidTree.message (e : InvalidTree) : String :=
  "invalid " ++ e.tree.name ++ ": " ++ e.fault.message

/-- Checks a tree of a request. -/
def RadarTree.check (tree : RadarTree) (value : Json) : Except InvalidTree Unit :=
  match Tree.ofJson value with
  | .ok _ => .ok ()
  | .error fault => .error ⟨tree, fault⟩

/-- Checks a tree that may be absent. -/
def RadarTree.checkGiven (tree : RadarTree) : Option Json → Except InvalidTree Unit
  | none => .ok ()
  | some value => tree.check value

/-- The names of the parts of a request, in their order. -/
def requestPartNames : List String := ["description", "view", "checks"]

namespace RadarDraft

def validate (draft : RadarDraft) : Except InvalidTree Unit :=
  match RadarTree.view.check draft.view with
  | .error e => .error e
  | .ok () => RadarTree.checks.check draft.checks

/-- The draft that a JSON value stands for. The trees have to be there, but may be null. -/
def ofJson? (value : Json) : Option RadarDraft := do
  let parts ← value.parts? requestPartNames requestPartNames.length
  let description ← parts.optional "description" Json.asText?
  let view ← parts "view"
  let checks ← parts "checks"
  return { description, view, checks }

end RadarDraft

namespace RadarChange

def validate (change : RadarChange) : Except InvalidTree Unit :=
  match RadarTree.view.checkGiven change.view with
  | .error e => .error e
  | .ok () => RadarTree.checks.checkGiven change.checks

/-- The change that a JSON value stands for. -/
def ofJson? (value : Json) : Option RadarChange := do
  let parts ← value.parts? requestPartNames requestPartNames.length
  let description ← parts.optional "description" Json.asText?
  let view ← parts.optional "view" some
  let checks ← parts.optional "checks" some
  return { description, view, checks }

end RadarChange

/-! ### Radars to begin with -/

namespace RadarDraft

/-- A leaf, as it stands in a tree. -/
def leafJson (id : String) (params : List (String × Json)) : Json :=
  .ofMembers [("id", .string id), ("params", .ofMembers params)]

/-- The operands joined by OR. -/
def anyOf (operands : List Json) : Json := .array (.string "OR" :: operands)

/-- The calls of a model. -/
def modelCalls : Json :=
  .array [.string "AND", leafJson "type" [("type", .string "llm")]]

/-- Whether the output contains what a filter looks for. -/
def outputContains (filter : String) : Json :=
  leafJson filter [("field", .string "output"), ("type", .string "contains")]

/-- The radars that a new project is offered. -/
def defaults : List RadarDraft :=
  [{ description := some "Failed or slow LLM calls"
     view := modelCalls
     checks := anyOf
       [leafJson "status" [("status", .string "error")],
        leafJson "duration" [("operator", .string "gt"), ("duration", .ofInt 30000)]] },
   { description := some "Answer contains PII (Personal Identifiable Information)"
     view := modelCalls
     checks := anyOf [outputContains "email", outputContains "cc", outputContains "phone"] }]

end RadarDraft

end RunRadar
