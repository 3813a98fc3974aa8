import RunRadar.Number.Reading
import RunRadar.Number.Shortest
import RunRadar.Predicate.Basic
import RunRadar.Run.Basic
import RunRadar.Text.Search

/-!
# RunRadar.Predicate.Match

Conditions **decided in process**. A test on a field that the run lacks is false, whatever
the operator. A text beside a number is compared as the number it reads as, and is unequal to
everything if it reads as none. Searching a payload looks at every string in it, at any
depth, and at nothing else.
-/

namespace RunRadar

/-- What a field of a run holds. -/
inductive FieldValue
  | text (s : String)
  | number (x : Binary64)
deriving DecidableEq

/-! ### Searching payloads -/

namespace Json

mutual
/-- Whether some string in a value contains the lower-case needle, once lower-cased. -/
def someStringContains (needle : List Char) : Json → Bool
  | .string s => Text.occursIn needle (Text.lowerChars s.toList)
  | .array items => someItemContains needle items
  | .object fields => fields.someValueContains needle
  | .null => false
  | .bool _ => false
  | .number _ => false
/-- Whether some item does. -/
def someItemContains (needle : List Char) : List Json → Bool
  | [] => false
  | item :: items => item.someStringContains needle || someItemContains needle items
/-- Whether the value of some member does. -/
def Fields.someValueContains (needle : List Char) : {lower : Option String} → Fields lower → Bool
  | _, .nil => false
  | _, .cons _ _ value rest =>
    value.someStringContains needle || rest.someValueContains needle
end

end Json

namespace Run

/-! ### Fields -/

/-- The text of a metadata value. -/
def metadataText? : Json → Option String
  | .null => none
  | .string s => some s
  | value => some value.text

/-- What a field holds, if the run has it. Tags are no single value. -/
def field? (run : Run) : Field → Option FieldValue
  | .kind => some (.text run.kind)
  | .name => run.name.map .text
  | .status => run.status.map .text
  | .externalUser => run.externalUser.map fun i => .number (.ofInt i)
  | .durationMs => run.durationMs?.map fun i => .number (.ofInt i)
  | .cost => run.cost.map .number
  | .totalTokens => some (.number (.ofInt run.totalTokens))
  | .tags => none
  | .metadata key =>
    ((run.metadata.bind (·.member? key)).bind metadataText?).map .text
  | .input => (run.text? .input).map .text
  | .output => (run.text? .output).map .text

/-- What a field holds, written out. -/
def fieldText? (run : Run) (field : Field) : Option String :=
  match run.field? field with
  | some (.text s) => some s
  | some (.number x) => some x.plainText
  | none => none

/-- Whether a field contains the lower-case needle. -/
def fieldContains (run : Run) (needle : List Char) (field : Field) : Bool :=
  match field with
  | .input => run.input.any (·.someStringContains needle)
  | .output => run.output.any (·.someStringContains needle)
  | field =>
    (run.fieldText? field).any fun s => Text.occursIn needle (Text.lowerChars s.toList)

end Run

/-! ### Conditions -/

/-- Compares what a field holds with a literal. -/
def FieldValue.holds (actual : FieldValue) (op : Operator) (expected : Scalar) : Bool :=
  match actual, expected with
  | .number x, .number y => op.holds x y
  | .number x, .integer i => op.holds x (.ofInt i)
  | .number x, .text t => (readDouble? t).any fun y => op.holds x y
  | .text s, .text t => op.holdsText s t
  | .text s, .number y => (readDouble? s).any fun x => op.holds x y
  | .text s, .integer i => (readDouble? s).any fun x => op.holds x (.ofInt i)

namespace Predicate

mutual
/-- Whether a run satisfies a condition. -/
def holds (run : Run) : Predicate → Bool
  | .always => true
  | .never => false
  | .all parts => holdsAll run parts
  | .any parts => holdsAny run parts
  | .compare field op value => (run.field? field).any (·.holds op value)
  | .isOneOf field values => (run.field? field).any fun actual => values.any (actual.holds .eq)
  | .overlaps field values =>
    match field with
    | .tags => run.tags.any fun tags => tags.any (values.contains ·)
    | _ => false
  | .contains fields needle => fields.any (run.fieldContains (Text.lowerChars needle.toList))
/-- Whether a run satisfies all of the conditions. -/
def holdsAll (run : Run) : List Predicate → Bool
  | [] => true
  | p :: ps => p.holds run && holdsAll run ps
/-- Whether a run satisfies one of the conditions. -/
def holdsAny (run : Run) : List Predicate → Bool
  | [] => false
  | p :: ps => p.holds run || holdsAny run ps
end

@[simp] theorem holdsAll_eq_all (run : Run) (ps : List Predicate) :
    holdsAll run ps = ps.all (holds run) := by
  induction ps with
  | nil => rfl
  | cons p ps ih => simp [holdsAll, ih]

@[simp] theorem holdsAny_eq_any (run : Run) (ps : List Predicate) :
    holdsAny run ps = ps.any (holds run) := by
  induction ps with
  | nil => rfl
  | cons p ps ih => simp [holdsAny, ih]

@[simp] theorem holds_always (run : Run) : always.holds run = true := rfl

@[simp] theorem holds_never (run : Run) : never.holds run = false := rfl

/-- A conjunction holds when every part does. -/
@[simp] theorem holds_all (run : Run) (ps : List Predicate) :
    (all ps).holds run = ps.all (holds run) := by simp [holds]

/-- A disjunction holds when some part does. -/
@[simp] theorem holds_any (run : Run) (ps : List Predicate) :
    (any ps).holds run = ps.any (holds run) := by simp [holds]

end Predicate

end RunRadar
