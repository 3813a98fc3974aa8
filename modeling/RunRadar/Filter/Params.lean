import RunRadar.Json.Writer
import RunRadar.Number.Reading
import RunRadar.Text.Blank
import RunRadar.Text.Quoted

/-!
# RunRadar.Filter.Params

The **params** of filters: what a filter declares, what is wrong with params that do not fit,
and how single params are read.

Null counts as absent throughout, and params that are not declared are never looked at.
-/

namespace RunRadar

/-- What a param has to be. -/
inductive ParamKind
  | text
  /-- A JSON number, or a string that reads as one. -/
  | number
  /-- One of the listed strings. -/
  | select (options : List String)
  /-- A list of strings and numbers. -/
  | list
deriving DecidableEq

/-- The declaration of a param. -/
structure ParamSpec where
  name : String
  kind : ParamKind
  required : Bool
deriving DecidableEq

namespace ParamSpec

/-- A param that has to be there. -/
def needed (name : String) (kind : ParamKind) : ParamSpec := ⟨name, kind, true⟩

/-- A param that may be absent. -/
def allowed (name : String) (kind : ParamKind) : ParamSpec := ⟨name, kind, false⟩

end ParamSpec

/-! ### Errors -/

/-- Why the params of a leaf do not fit its filter. -/
inductive ParamError
  | missing (filter param : String)
  | wrongType (filter param expected : String)
  | notAnOption (filter param value : String) (options : List String)
  | invalidPattern (filter pattern : String)
deriving DecidableEq

def ParamError.message : ParamError → String
  | .missing filter param => "filter `" ++ filter ++ "`: missing required param `" ++ param ++ "`"
  | .wrongType filter param expected =>
    "filter `" ++ filter ++ "`: param `" ++ param ++ "` must be " ++ expected
  | .notAnOption filter param value options =>
    "filter `" ++ filter ++ "`: param `" ++ param ++ "` must be one of " ++
      Text.quotedList options ++ ", got `" ++ value ++ "`"
  | .invalidPattern filter pattern =>
    "filter `" ++ filter ++ "`: invalid pattern `" ++ pattern ++ "`"

/-- What a param of some kind has to be, in words. -/
def ParamKind.description : ParamKind → String
  | .text => "a string"
  | .number => "a number"
  | .select _ => "a string"
  | .list => "an array of strings or numbers"

/-! ### Reading -/

/-- The params of a leaf, read for a filter. -/
structure ParamReader where
  filter : String
  params : Json.Object

namespace ParamReader

def missing (reader : ParamReader) (name : String) : ParamError := .missing reader.filter name

def wrongType (reader : ParamReader) (name : String) (kind : ParamKind) : ParamError :=
  .wrongType reader.filter name kind.description

/-- A param, unless it is absent. -/
def given? (reader : ParamReader) (name : String) : Option Json := reader.params.present? name

/-- A string. -/
def text (reader : ParamReader) (name : String) : Except ParamError String :=
  match reader.given? name with
  | some (.string s) => .ok s
  | some _ => .error (reader.wrongType name .text)
  | none => .error (reader.missing name)

/-- A number, perhaps written as a string with blanks around it. -/
def number (reader : ParamReader) (name : String) : Except ParamError Binary64 :=
  match reader.given? name with
  | some (.number n) => .ok n.toDouble
  | some (.string s) =>
    match readDouble? (Text.trim s) with
    | some x => .ok x
    | none => .error (reader.wrongType name .number)
  | some _ => .error (reader.wrongType name .number)
  | none => .error (reader.missing name)

/-- One of the options. -/
def select (reader : ParamReader) (name : String) (options : List String) :
    Except ParamError String :=
  match reader.text name with
  | .error e => .error e
  | .ok value =>
    if options.contains value then .ok value
    else .error (.notAnOption reader.filter name value options)

/-- One of the options, or the default if the param is absent. -/
def selectOr (reader : ParamReader) (name : String) (options : List String) (default : String) :
    Except ParamError String :=
  match reader.given? name with
  | none => .ok default
  | some _ => reader.select name options

/-- A list of strings and numbers. -/
def list (reader : ParamReader) (name : String) : Except ParamError (List Json) :=
  match reader.given? name with
  | some (.array items) =>
    if items.all fun item => item.isString || item.isNumber then .ok items
    else .error (reader.wrongType name .list)
  | some _ => .error (reader.wrongType name .list)
  | none => .error (reader.missing name)

/-- Reads a param for what its declaration says, and forgets the value. -/
def check (reader : ParamReader) (spec : ParamSpec) : Except ParamError Unit :=
  match reader.given? spec.name with
  | none => if spec.required then .error (reader.missing spec.name) else .ok ()
  | some _ =>
    match spec.kind with
    | .text => (reader.text spec.name).map fun _ => ()
    | .number => (reader.number spec.name).map fun _ => ()
    | .select options => (reader.select spec.name options).map fun _ => ()
    | .list => (reader.list spec.name).map fun _ => ()

/-- Checks the params against a schema; the first declaration that they do not fit is
reported. -/
def validate (reader : ParamReader) : List ParamSpec → Except ParamError Unit
  | [] => .ok ()
  | spec :: schema =>
    match reader.check spec with
    | .error e => .error e
    | .ok () => validate reader schema

end ParamReader

end RunRadar
