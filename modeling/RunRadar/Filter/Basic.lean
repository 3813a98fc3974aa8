import RunRadar.Predicate.Basic
import RunRadar.Run.Basic
import RunRadar.Scan.Report

/-!
# RunRadar.Filter.Basic

**Filters**: the named tests that trees call. A filter is decided by storage, by an evaluator
that looks at single runs, or by either; where there is a choice, storage decides.
-/

namespace RunRadar

/-! ### Evaluators -/

/-- What an evaluator finds out about a run. -/
structure Verdict where
  passed : Bool
  details : Option Json
deriving DecidableEq

/-- Why an evaluator has no verdict. -/
inductive EvaluatorError
  | params (fault : ParamError)
  | failed (filter reason : String)
deriving DecidableEq

def EvaluatorError.message : EvaluatorError → String
  | .params fault => fault.message
  | .failed filter reason => "filter `" ++ filter ++ "` failed: " ++ reason

/-- The consultation of an evaluator. Before it answers, an evaluator may start scans with the
scanner that has called it, and go on from what they came to. -/
inductive Consultation
  | answer (result : Except EvaluatorError Verdict)
  | rescan (next : Except ScanError ScanReport → Consultation)

/-- Decides a filter on one run. The number tells the consultations of one history apart, so
that an evaluator need not give the same answer twice. -/
abbrev Evaluator := Nat → Run → ParamReader → Consultation

namespace Evaluator

/-- The evaluator that answers by a function of run and params. -/
def steady (decide : Run → ParamReader → Except EvaluatorError Verdict) : Evaluator :=
  fun _ run params => .answer (decide run params)

/-- Whether an evaluator is a function of run and params. -/
def IsSteady (evaluator : Evaluator) : Prop :=
  ∃ decide, evaluator = steady decide

theorem isSteady_steady (decide : Run → ParamReader → Except EvaluatorError Verdict) :
    (steady decide).IsSteady := ⟨decide, rfl⟩

end Evaluator

/-! ### Filters -/

/-- Makes a storage condition of params. -/
abbrev ConditionBuilder := ParamReader → Except ParamError Predicate

/-- How a filter is decided. -/
inductive FilterKind
  | pushdown (build : ConditionBuilder)
  | evaluator (evaluate : Evaluator)
  /-- In both ways. Storage is preferred. -/
  | hybrid (build : ConditionBuilder) (evaluate : Evaluator)

/-- A filter, and the params it reads. -/
structure Filter where
  id : String
  schema : List ParamSpec
  kind : FilterKind

namespace Filter

/-- The builder of a filter that storage can decide. -/
def builder? (filter : Filter) : Option ConditionBuilder :=
  match filter.kind with
  | .pushdown build => some build
  | .evaluator _ => none
  | .hybrid build _ => some build

def evaluator? (filter : Filter) : Option Evaluator :=
  match filter.kind with
  | .pushdown _ => none
  | .evaluator evaluate => some evaluate
  | .hybrid _ evaluate => some evaluate

/-- Whether storage can decide the filter. -/
def isPushdown (filter : Filter) : Bool := filter.builder?.isSome

/-- The params of a leaf, read for this filter. -/
def reader (filter : Filter) (params : Json.Object) : ParamReader := ⟨filter.id, params⟩

/-- Checks params against the schema. -/
def validate (filter : Filter) (params : Json.Object) : Except ParamError Unit :=
  (filter.reader params).validate filter.schema

/-- The storage condition for params that fit, if storage can decide the filter. -/
def predicate? (filter : Filter) (params : Json.Object) : Option (Except ParamError Predicate) :=
  match filter.builder? with
  | none => none
  | some build =>
    match filter.validate params with
    | .error e => some (.error e)
    | .ok () => some (build (filter.reader params))

end Filter

end RunRadar
