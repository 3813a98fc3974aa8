import RunRadar.Filter.Basic
import RunRadar.Filter.Card
import RunRadar.Filter.Stored
import RunRadar.Json.Reader
import RunRadar.Pattern.Match
import RunRadar.Pattern.Reader

/-!
# RunRadar.Filter.Scanned

The built-in filters that **look through the text** of a run's input or output: for mail
addresses, phone numbers, card numbers, matches of a pattern, a length, or JSON. No storage
condition says the same.
-/

namespace RunRadar.Filter.Scanned

/-! ### Parts of params -/

/-- The payloads that can be looked through. -/
def fields : List String := ["input", "output"]

/-- Whether matches are wanted or unwanted. -/
def matchTypes : List String := ["contains", "not_contains"]

/-- Whether JSON is wanted or unwanted. -/
def jsonTypes : List String := ["valid", "invalid"]

/-- The payload that the params name. -/
def payload (params : ParamReader) : Except ParamError Payload :=
  match params.select "field" fields with
  | .error e => .error e
  | .ok name =>
    match Payload.ofName? name with
    | some p => .ok p
    | none => .error (.notAnOption params.filter "field" name fields)

/-- Whether the params want matches. They do unless they say otherwise. -/
def wantsMatch (params : ParamReader) : Except ParamError Bool :=
  (params.selectOr "type" matchTypes "contains").map (· = "contains")

/-- The verdict over the matches that are found. -/
def matchVerdict (wanted : Bool) (found : List String) : Verdict :=
  { passed := !found.isEmpty == wanted
    details := some (.ofMembers [("matches", .ofTexts found)]) }

/-! ### Personal data -/

/-- A mail address, whatever its case. -/
def mailPattern : Pattern :=
  let letters : Text.Ranges := [(0x41, 0x5A), (0x61, 0x7A), (0x17F, 0x17F), (0x212A, 0x212A)]
  let domain : Text.Ranges :=
    [(0x2D, 0x2E), (0x30, 0x39), (0x41, 0x5A), (0x61, 0x7A), (0x17F, 0x17F), (0x212A, 0x212A)]
  let user : Text.Ranges :=
    [(0x25, 0x25), (0x2B, 0x2B), (0x2D, 0x2E), (0x30, 0x39), (0x41, 0x5A), (0x5F, 0x5F),
     (0x61, 0x7A), (0x17F, 0x17F), (0x212A, 0x212A)]
  let edge : Pattern := .look (.word true .boundary)
  .all
    [edge, .times 1 none true (.chars user), .char '@', .times 1 none true (.chars domain),
     .char '.', .times 2 none true (.chars letters), edge]

/-- A phone number: perhaps a country code, an area code in parentheses or at the start of a
word, and two groups of digits. -/
def phonePattern : Pattern :=
  let digits (low high : Nat) : Pattern :=
    .times low (some high) true (.chars Unicode.digits)
  let optional (p : Pattern) : Pattern := .times 0 (some 1) true p
  let separator : Pattern := .chars (Text.Ranges.union Text.blanks [(0x2D, 0x2E)])
  let edge : Pattern := .look (.word true .boundary)
  .all
    [optional (.all [.char '+', digits 1 3, optional separator]),
     .alt (.all [.char '(', digits 2 4, .char ')', optional separator])
       (.all [edge, digits 2 4, separator]),
     digits 3 4, optional separator, digits 3 4, edge]

/-- From thirteen to nineteen digits, perhaps with a blank or hyphen between neighbours. -/
def cardPattern : Pattern :=
  let digit : Pattern := .chars Unicode.digits
  let separator : Pattern := .chars [(0x20, 0x20), (0x2D, 0x2D)]
  let edge : Pattern := .look (.word true .boundary)
  .all
    [edge, .times 12 (some 18) true (.all [digit, .times 0 (some 1) true separator]), digit, edge]

/-- The personal data that can be looked for. -/
inductive PersonalData
  | mail
  | phone
  | card

namespace PersonalData

def pattern : PersonalData → Pattern
  | .mail => mailPattern
  | .phone => phonePattern
  | .card => cardPattern

/-- What is found in a text. Card numbers have to have the right checksum. -/
def scan (data : PersonalData) (text : String) : List String :=
  let found := data.pattern.findAll text
  match data with
  | .card => found.filter fun m => Card.isValid m.toList
  | _ => found

/-- Looks for personal data in a payload. -/
def evaluate (data : PersonalData) (run : Run) (params : ParamReader) :
    Except EvaluatorError Verdict :=
  match payload params with
  | .error e => .error (.params e)
  | .ok p =>
    match wantsMatch params with
    | .error e => .error (.params e)
    | .ok wanted => .ok (matchVerdict wanted (((run.text? p).map data.scan).getD []))

end PersonalData

/-! ### Patterns -/

/-- Looks for matches of the pattern in the params. -/
def pattern (run : Run) (params : ParamReader) : Except EvaluatorError Verdict :=
  match payload params with
  | .error e => .error (.params e)
  | .ok p =>
    match wantsMatch params with
    | .error e => .error (.params e)
    | .ok wanted =>
      match params.text "pattern" with
      | .error e => .error (.params e)
      | .ok source =>
        match Pattern.read? source with
        | none => .error (.params (.invalidPattern params.filter source))
        | some pattern => .ok (matchVerdict wanted (((run.text? p).map pattern.findAll).getD []))

/-! ### Length -/

/-- Compares the number of characters of a payload. Without a text there are none. -/
def length (run : Run) (params : ParamReader) : Except EvaluatorError Verdict :=
  match payload params with
  | .error e => .error (.params e)
  | .ok p =>
    match Stored.operator params with
    | .error e => .error (.params e)
    | .ok op =>
      match params.number "length" with
      | .error e => .error (.params e)
      | .ok limit =>
        let count := ((run.text? p).map String.length).getD 0
        .ok
          { passed := op.holds (.ofNat count) limit
            details := some (.ofMembers [("length", .ofInt count)]) }

/-! ### JSON -/

/-- Whether a text, blanks around it aside, is a JSON array or object. -/
def isStructured (text : String) : Bool :=
  match Json.read? (Text.trim text) with
  | some (.array _) => true
  | some (.object _) => true
  | _ => false

/-- Checks whether a payload is structured JSON. -/
def json (run : Run) (params : ParamReader) : Except EvaluatorError Verdict :=
  match payload params with
  | .error e => .error (.params e)
  | .ok p =>
    match params.selectOr "type" jsonTypes "valid" with
    | .error e => .error (.params e)
    | .ok type =>
      .ok { passed := (run.text? p).any isStructured == (type = "valid"), details := none }

/-! ### Definitions -/

/-- A filter that an evaluator decides by run and params. -/
def define (id : String) (schema : List ParamSpec)
    (decide : Run → ParamReader → Except EvaluatorError Verdict) : Filter :=
  ⟨id, schema, .evaluator (.steady decide)⟩

def fieldSpec : ParamSpec := .needed "field" (.select fields)

def matchTypeSpec : ParamSpec := .allowed "type" (.select matchTypes)

/-- The filters that look through texts. -/
def filters : List Filter :=
  [define "email" [fieldSpec, matchTypeSpec] PersonalData.mail.evaluate,
   define "phone" [fieldSpec, matchTypeSpec] PersonalData.phone.evaluate,
   define "cc" [fieldSpec, matchTypeSpec] PersonalData.card.evaluate,
   define "regex" [fieldSpec, .needed "pattern" .text, matchTypeSpec] pattern,
   define "length"
     [fieldSpec, .needed "operator" (.select Operator.names), .needed "length" .number] length,
   define "json" [fieldSpec, .allowed "type" (.select jsonTypes)] json]

end RunRadar.Filter.Scanned
