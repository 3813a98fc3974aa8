import RunRadar.Filter.Basic

/-!
# RunRadar.Filter.Stored

The built-in filters that **storage decides**: by kind, model, tags, status, user, duration,
cost, tokens and metadata, and by searching the payloads.
-/

namespace RunRadar.Filter.Stored

/-! ### Parts of conditions -/

/-- The kinds of runs. -/
def runKinds : List String :=
  ["llm", "chain", "agent", "tool", "thread", "chat", "embed", "retriever"]

/-- The states of runs. -/
def runStatuses : List String := ["started", "success", "error"]

/-- The condition that a field is a given text. -/
def equals (field : Field) (value : String) : Predicate := .compare field .eq (.text value)

/-- A list item as text: a string as it is, and a number as JSON. -/
def itemText : Json → String
  | .string s => s
  | item => item.text

/-- The whole number that a list item is, or is written as with blanks around it. -/
def itemInteger? : Json → Option Int
  | .number n => n.int64?
  | .string s => readInt64? (Text.trim s)
  | _ => none

/-- The schema of a comparison with the number under `name`. -/
def numericSchema (name : String) : List ParamSpec :=
  [.needed "operator" (.select Operator.names), .needed name .number]

/-- The operator that the params name. -/
def operator (params : ParamReader) : Except ParamError Operator :=
  match params.select "operator" Operator.names with
  | .error e => .error e
  | .ok name =>
    match Operator.ofName? name with
    | some op => .ok op
    | none => .error (.notAnOption params.filter "operator" name Operator.names)

/-- Compares a field with the number under `name`. -/
def numeric (field : Field) (name : String) : ConditionBuilder := fun params =>
  match operator params with
  | .error e => .error e
  | .ok op => (params.number name).map fun x => .compare field op (.number x)

/-! ### Builders -/

def kind : ConditionBuilder := fun params =>
  (params.select "type" runKinds).map (equals .kind)

def models : ConditionBuilder := fun params =>
  (params.list "models").map fun items =>
    .isOneOf .name (items.map fun item => .text (itemText item))

def tags : ConditionBuilder := fun params =>
  (params.list "tags").map fun items => .overlaps .tags (items.map itemText)

def status : ConditionBuilder := fun params =>
  (params.select "status" runStatuses).map (equals .status)

/-- Every item has to be a whole number of sixty-four bits, or be written as one. -/
def users : ConditionBuilder := fun params =>
  match params.list "users" with
  | .error e => .error e
  | .ok items =>
    match items.mapM itemInteger? with
    | some ids => .ok (.isOneOf .externalUser (ids.map .integer))
    | none => .error (.wrongType params.filter "users" "an array of user ids")

def duration : ConditionBuilder := numeric .durationMs "duration"

def cost : ConditionBuilder := numeric .cost "cost"

def tokens : ConditionBuilder := numeric .totalTokens "tokens"

def metadata : ConditionBuilder := fun params =>
  match params.text "key" with
  | .error e => .error e
  | .ok key => (params.text "value").map (equals (.metadata key))

def search : ConditionBuilder := fun params =>
  (params.text "query").map (.contains [.input, .output])

/-! ### Definitions -/

/-- A filter that storage decides. -/
def define (id : String) (schema : List ParamSpec) (build : ConditionBuilder) : Filter :=
  ⟨id, schema, .pushdown build⟩

/-- The filters that storage decides. -/
def filters : List Filter :=
  [define "type" [.needed "type" (.select runKinds)] kind,
   define "models" [.needed "models" .list] models,
   define "tags" [.needed "tags" .list] tags,
   define "status" [.needed "status" (.select runStatuses)] status,
   define "users" [.needed "users" .list] users,
   define "duration" (numericSchema "duration") duration,
   define "cost" (numericSchema "cost") cost,
   define "tokens" (numericSchema "tokens") tokens,
   define "metadata" [.needed "key" .text, .needed "value" .text] metadata,
   define "search" [.needed "query" .text] search]

end RunRadar.Filter.Stored
