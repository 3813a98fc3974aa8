import RunRadar.Instant
import RunRadar.Json.Basic
import RunRadar.Uuid

/-!
# RunRadar.Json.Record

Reading **records**: JSON values whose parts have names. The parts of an object are its
members, and unknown members are ignored. An array is a record too, its items being the
parts in their declared order.

A required part has to be there; an optional one may also be null.
-/

namespace RunRadar.Json

/-- The parts of a record, by name. -/
abbrev Parts := String → Option Json

/-- The parts of a record with the given names in order. An array has an item for each
name; only names behind the first `least` may go without. -/
def parts? (names : List String) (least : Nat) : Json → Option Parts
  | .object fields => some fields.get?
  | .array items =>
    if least ≤ items.length ∧ items.length ≤ names.length then
      some fun name => (names.zip items).lookup name
    else none
  | _ => none

/-- A part that has to be there. -/
def Parts.required {α : Type} (parts : Parts) (name : String) (read : Json → Option α) :
    Option α :=
  (parts name).bind read

/-- A part that may be missing or null. What is there has to be readable. -/
def Parts.optional {α : Type} (parts : Parts) (name : String) (read : Json → Option α) :
    Option (Option α) :=
  match parts name with
  | none => some none
  | some .null => some none
  | some value => (read value).map some

/-! ### Parts of one type -/

def asBool? : Json → Option Bool
  | .bool b => some b
  | _ => none

def asText? : Json → Option String
  | .string s => some s
  | _ => none

def asTexts? : Json → Option (List String)
  | .array items => items.mapM asText?
  | _ => none

/-- A whole number from `low` up to but not including `high`. -/
def asInt? (low high : Int) : Json → Option Int
  | .number (.integer i _) => if low ≤ i ∧ i < high then some i else none
  | _ => none

/-- A whole number of thirty-two bits, with sign. -/
def asInt32? : Json → Option Int := asInt? (-0x8000_0000) 0x8000_0000

/-- A whole number of sixty-four bits, with sign. -/
def asInt64? : Json → Option Int := asInt? (-0x8000_0000_0000_0000) 0x8000_0000_0000_0000

/-- Any number, as the nearest double. -/
def asDouble? : Json → Option Binary64
  | .number n => some n.toDouble
  | _ => none

def asUuid? (value : Json) : Option Uuid := value.asText?.bind Uuid.read?

def asInstant? (value : Json) : Option Instant := value.asText?.bind Instant.read?

/-! ### Written parts -/

def ofUuid (id : Uuid) : Json := .string id.text

def ofInstant (t : Instant) : Json := .string t.text

/-- A double as a number; what is not finite is null. -/
def ofDouble (x : Binary64) : Json :=
  if finite : x.isFinite = true then .number (.double x finite) else .null

end RunRadar.Json
