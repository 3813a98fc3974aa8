import RunRadar.Proofs.Engine.Evaluation
import RunRadar.Proofs.Filter.Schema
import RunRadar.Proofs.Json.Value
import RunRadar.Run.Virtual

/-!
# RunRadar.Proofs.Filter.Threshold

**Thresholds split runs in three**. Between two numbers exactly one of `lt`, `eq` and `gt` holds,
and the other operators are the opposites of these (`Operator.splits_holds`). Four filters compare
a run with a number in their params, and what they compare it with is a number unless the param is
a string that says otherwise. Such a string is accepted too, and then no run lies below, at or above
the threshold (`threshold_splits_unless_nan`).
-/

namespace RunRadar

/-! ### Operators on numbers -/

namespace Operator

/-- Verdicts as a threshold gives them that splits what is compared with it: it lies below, at or
above the threshold, and the other operators say the opposite. -/
structure Splits (verdict : Operator → Bool) : Prop where
  one : ∃! op, (op = .lt ∨ op = .eq ∨ op = .gt) ∧ verdict op = true
  neq : verdict .neq = !verdict .eq
  gte : verdict .gte = !verdict .lt
  lte : verdict .lte = !verdict .gt

/-- In a linear order everything splits everything. -/
theorem splits_compares {α : Type} [LinearOrder α] (x y : α) :
    Splits fun op => op.compares x y where
  one := by
    rcases lt_trichotomy x y with h | h | h
    · refine ⟨.lt, ⟨.inl rfl, decide_eq_true h⟩, ?_⟩
      rintro op ⟨rfl | rfl | rfl, hop⟩
      · rfl
      · exact absurd (of_decide_eq_true hop) h.ne
      · exact absurd (of_decide_eq_true hop) h.asymm
    · refine ⟨.eq, ⟨.inr (.inl rfl), decide_eq_true h⟩, ?_⟩
      rintro op ⟨rfl | rfl | rfl, hop⟩
      · exact absurd h (of_decide_eq_true hop).ne
      · rfl
      · exact absurd h (of_decide_eq_true hop).ne'
    · refine ⟨.gt, ⟨.inr (.inr rfl), decide_eq_true h⟩, ?_⟩
      rintro op ⟨rfl | rfl | rfl, hop⟩
      · exact absurd (of_decide_eq_true hop) h.asymm
      · exact absurd (of_decide_eq_true hop) h.ne'
      · rfl
  neq := by simp [compares]
  gte := by simp only [compares, ← not_lt, decide_not]
  lte := by simp only [compares, ← not_lt, decide_not]

/-- A number splits numbers. -/
theorem splits_holds {x y : Binary64} (hx : x.isNaN = false) (hy : y.isNaN = false) :
    Splits fun op => op.holds x y := by
  simp only [holds_eq_compares_rank _ hx hy]
  exact splits_compares x.rank y.rank

/-- Beside what is not a number only `neq` holds. -/
theorem holds_of_isNaN {y : Binary64} (hy : y.isNaN = true) (op : Operator) (x : Binary64) :
    op.holds x y = true ↔ op = .neq := by
  cases op <;> simp [holds, Binary64.eq, Binary64.lt, Binary64.le, hy]

/-- So it splits nothing. -/
theorem not_splits_of_isNaN {x y : Binary64} (hy : y.isNaN = true) :
    ¬ Splits fun op => op.holds x y := by
  intro h
  obtain ⟨op, ⟨hop, hholds⟩, -⟩ := h.one
  obtain rfl := (holds_of_isNaN hy op x).mp hholds
  simp at hop

end Operator

/-! ### Thresholds in params -/

/-- Whether the param under a name is a string that says that it is not a number, blanks around it
aside. -/
def SaysNaNUnder (params : Json.Object) (name : String) : Prop :=
  ∃ s, params.present? name = some (.string s) ∧ SaysNaN (Text.trim s)

/-- What is read as a number is one unless the param says otherwise. -/
theorem ParamReader.isNaN_number_iff {reader : ParamReader} {name : String} {x : Binary64}
    (h : reader.number name = .ok x) : x.isNaN = true ↔ SaysNaNUnder reader.params name := by
  unfold number at h
  unfold SaysNaNUnder
  split at h
  · next n hgiven =>
      cases h
      rw [given?] at hgiven
      simp [hgiven]
  · next s hgiven =>
      split at h
      · next x' hread =>
          cases h
          rw [given?] at hgiven
          simp [hgiven, isNaN_readDouble?_iff hread]
      · cases h
  · cases h
  · cases h

/-- The same params with another operator. -/
def withOperator (params : Json.Object) (op : Operator) : Json.Object :=
  params.insert "operator" (.string op.name)

section Operators

variable {id name : String} {params : Json.Object} {op : Operator}

theorem select_withOperator :
    (⟨id, withOperator params op⟩ : ParamReader).select "operator" Operator.names =
      .ok op.name := by
  have hgiven : (⟨id, withOperator params op⟩ : ParamReader).given? "operator" =
      some (.string op.name) := Json.Fields.present?_insert_string _ _ _
  rw [ParamReader.select, ParamReader.text_eq_ok_iff.mpr hgiven]
  exact if_pos (List.contains_iff_mem.mpr op.name_mem_names)

theorem operator_withOperator :
    Filter.Stored.operator ⟨id, withOperator params op⟩ = .ok op := by
  rw [Filter.Stored.operator, select_withOperator]
  dsimp only
  rw [Operator.ofName?_name]

/-- Any other param stays what it is. -/
theorem given?_withOperator (hname : "operator" ≠ name) (op : Operator) :
    (⟨id, withOperator params op⟩ : ParamReader).given? name =
      (⟨id, params⟩ : ParamReader).given? name :=
  Json.Fields.present?_insert_of_ne hname _ _

theorem number_withOperator (hname : "operator" ≠ name) (op : Operator) :
    (⟨id, withOperator params op⟩ : ParamReader).number name =
      (⟨id, params⟩ : ParamReader).number name :=
  ParamReader.number_congr rfl (given?_withOperator hname op)

theorem payload_withOperator (op : Operator) :
    Filter.Scanned.payload ⟨id, withOperator params op⟩ = Filter.Scanned.payload ⟨id, params⟩ := by
  have hname : "operator" ≠ "field" := by decide
  have hselect : (⟨id, withOperator params op⟩ : ParamReader).select "field" Filter.Scanned.fields =
      (⟨id, params⟩ : ParamReader).select "field" Filter.Scanned.fields := by
    refine ParamReader.select_congr ?_ (given?_withOperator hname op) _
    rfl
  rw [Filter.Scanned.payload, hselect]
  rfl

/-- Params that fit a schema still do, if it asks for an operator and no more about that param. -/
theorem validate_withOperator {schema : List ParamSpec}
    (h : (⟨id, params⟩ : ParamReader).validate schema = .ok ())
    (hschema : ∀ spec ∈ schema, "operator" ≠ spec.name ∨
      spec = .needed "operator" (.select Operator.names)) (op : Operator) :
    (⟨id, withOperator params op⟩ : ParamReader).validate schema = .ok () := by
  rw [ParamReader.validate_eq_ok_iff] at h ⊢
  intro spec hspec
  -- any other declaration looks at a param that is as it was
  rcases hschema spec hspec with hname | rfl
  · rw [← h spec hspec]
    exact ParamReader.check_congr rfl (given?_withOperator hname op)
  · exact ParamReader.check_needed_eq_ok_iff.mpr ⟨_, select_withOperator⟩

end Operators

/-! ### Verdicts of filters -/

/-- A leaf of a filter with a function for its evaluator comes to what that says. -/
theorem Leaf.answer_of_steady {registry : Registry} {l : Leaf} {filter : Filter}
    {decide : Run → ParamReader → Except EvaluatorError Verdict} {faults : Faults} {run : Run}
    {verdict : Verdict} (hfilter : registry.lookup? l.id = some filter)
    (hkind : filter.kind = .evaluator (.steady decide)) (hvalid : filter.validate l.params = .ok ())
    (hverdict : decide run ⟨l.id, l.params⟩ = .ok verdict) :
    l.answer registry faults run = .ok (Interpreter.verdictOutcome l.id verdict) := by
  have hsettle : (Evaluator.steady decide).verdict run ⟨l.id, l.params⟩ = .ok verdict := hverdict
  rw [answer, hfilter]
  simp only [Filter.predicate?, Filter.builder?, Filter.evaluator?, hkind, hvalid, hsettle]

namespace Filter

/-- The verdicts, one for each operator, of a filter on a run. -/
def Gives (id : String) (params : Json.Object) (run : Run) (verdict : Operator → Bool) : Prop :=
  ∀ op, ∃ o, (Leaf.mk id (withOperator params op)).answer Registry.builtin {} run = .ok o ∧
    o.passed = verdict op

/-- A filter that compares a field with a number gives the verdicts of that comparison. -/
theorem exists_gives_numeric {id : String} {field : Field} {params : Json.Object} {run : Run}
    {v : Binary64} (hname : "operator" ≠ id)
    (hfilter : Registry.builtin.lookup? id =
      some (Stored.define id (Stored.numericSchema id) (Stored.numeric field id)))
    (hvalid : (⟨id, params⟩ : ParamReader).validate (Stored.numericSchema id) = .ok ())
    (hfield : run.field? field = some (.number v)) :
    ∃ x, (⟨id, params⟩ : ParamReader).number id = .ok x ∧
      Gives id params run fun op => op.holds v x := by
  obtain ⟨x, hx⟩ := Stored.suffices_number id _ hvalid
  refine ⟨x, hx, fun op => ?_⟩
  have hp : (Stored.define id (Stored.numericSchema id) (Stored.numeric field id)).predicate?
      (withOperator params op) = some (.ok (.compare field op (.number x))) :=
    Stored.predicate?_numeric.mpr
      ⟨op, x, operator_withOperator, (number_withOperator hname op).trans hx, rfl⟩
  refine ⟨.ofFilter id (op.holds v x), ?_, rfl⟩
  rw [Leaf.answer, hfilter]
  dsimp only
  rw [hp]
  simp [Predicate.holds, hfield, FieldValue.holds]

/-- The filter by length gives the verdicts of a comparison with a number of characters. -/
theorem gives_length {params : Json.Object} (run : Run) {x : Binary64}
    (hvalid : Scanned.byLength.validate params = .ok ())
    (hx : (⟨"length", params⟩ : ParamReader).number "length" = .ok x) :
    ∃ count, Gives "length" params run fun op => op.holds (.ofNat count) x := by
  obtain ⟨p, hp⟩ := Scanned.exists_payload_of_validate hvalid List.mem_cons_self
  refine ⟨((run.text? p).map String.length).getD 0, fun op => ?_⟩
  have hvalid' : Scanned.byLength.validate (withOperator params op) = .ok () :=
    validate_withOperator hvalid (by decide) op
  obtain ⟨verdict, hverdict, hpassed⟩ := Scanned.length_of_reads
    ((payload_withOperator op).trans hp) operator_withOperator
    ((number_withOperator (by decide) op).trans hx) run
  exact ⟨_, Leaf.answer_of_steady rfl rfl hvalid' hverdict, hpassed⟩

/-- Each of the filters that compare with a number reads it from the param of its own name, and
compares a number with it where the run has one. -/
theorem exists_gives {id : String}
    (hid : id = "duration" ∨ id = "cost" ∨ id = "tokens" ∨ id = "length") {filter : Filter}
    (hfilter : Registry.builtin.lookup? id = some filter) {params : Json.Object}
    (hvalid : filter.validate params = .ok ()) {run : Run}
    (hended : id = "duration" → run.endedAt ≠ none)
    (hcost : id = "cost" → ∃ c, run.cost = some c ∧ c.isFinite = true) :
    ∃ v x, v.isNaN = false ∧ (⟨id, params⟩ : ParamReader).number id = .ok x ∧
      Gives id params run fun op => op.holds v x := by
  -- the first three are conditions on a field, and the last asks an evaluator
  rcases hid with rfl | rfl | rfl | rfl <;> cases hfilter
  · obtain ⟨t, ht⟩ := Option.ne_none_iff_exists'.mp (hended rfl)
    have hfield : run.field? .durationMs =
        some (.number (.ofInt (t.millisSince run.createdAt))) := by
      rw [Run.field?, Run.durationMs?, ht]
      rfl
    obtain ⟨x, hx, hgives⟩ := exists_gives_numeric (by decide) rfl hvalid hfield
    exact ⟨_, x, Binary64.isNaN_ofInt _, hx, hgives⟩
  · obtain ⟨c, hc, hfinite⟩ := hcost rfl
    have hfield : run.field? .cost = some (.number c) := by
      rw [Run.field?, hc]
      rfl
    obtain ⟨x, hx, hgives⟩ := exists_gives_numeric (by decide) rfl hvalid hfield
    exact ⟨c, x, Binary64.isNaN_of_isFinite hfinite, hx, hgives⟩
  · obtain ⟨x, hx, hgives⟩ := exists_gives_numeric (by decide) rfl hvalid rfl
    exact ⟨_, x, Binary64.isNaN_ofInt _, hx, hgives⟩
  · obtain ⟨x, hx⟩ := ParamReader.reads_of_validate hvalid
      (List.mem_cons_of_mem _ (List.mem_cons_of_mem _ List.mem_cons_self))
    obtain ⟨count, hgives⟩ := gives_length run hvalid hx
    exact ⟨_, x, Binary64.isNaN_ofNat count, hx, hgives⟩

/-- A threshold that a filter accepts splits the runs that have what is compared with it, unless it
is the word for what is not a number. Then nothing lies below, at or above it, and only `neq`
passes. -/
theorem threshold_splits_unless_nan (id : String)
    (hid : id = "duration" ∨ id = "cost" ∨ id = "tokens" ∨ id = "length") (filter : Filter)
    (hfilter : Registry.builtin.lookup? id = some filter) (params : Json.Object)
    (hvalid : filter.validate params = .ok ()) (run : Run)
    (hended : id = "duration" → run.endedAt ≠ none)
    (hcost : id = "cost" → ∃ c, run.cost = some c ∧ c.isFinite = true) :
    ∃ verdict, Gives id params run verdict ∧
      (Operator.Splits verdict ↔ ¬ SaysNaNUnder params id) ∧
      (SaysNaNUnder params id → ∀ op, verdict op = true ↔ op = .neq) := by
  obtain ⟨v, x, hv, hx, hgives⟩ := exists_gives hid hfilter hvalid hended hcost
  have hnan : x.isNaN = true ↔ SaysNaNUnder params id := ParamReader.isNaN_number_iff hx
  refine ⟨_, hgives, ?_, fun hsays op => Operator.holds_of_isNaN (hnan.mpr hsays) op v⟩
  rw [← hnan]
  constructor
  · intro hsplits hisNaN
    exact Operator.not_splits_of_isNaN hisNaN hsplits
  · intro hnumber
    exact Operator.splits_holds hv (Bool.not_eq_true _ ▸ hnumber)

/-- A threshold written as a string splits the runs by their tokens, and one that is not a number
does not split those by their length. -/
theorem threshold_splits_unless_nan_text :
    let tokens : Json.Object := .ofList [("operator", .string "gt"), ("tokens", .string " 1e3 ")]
    let length : Json.Object := .ofList
      [("field", .string "output"), ("operator", .string "lt"), ("length", .string "-NaN")]
    let run := ({} : VirtualRun).runUntil ⟨0, 0, by decide⟩ none
    ∃ byTokens byLength verdict verdict', Registry.builtin.lookup? "tokens" = some byTokens ∧
      byTokens.validate tokens = .ok () ∧ Gives "tokens" tokens run verdict ∧
      Operator.Splits verdict ∧
      Registry.builtin.lookup? "length" = some byLength ∧ byLength.validate length = .ok () ∧
      Gives "length" length run verdict' ∧ ∀ op, verdict' op = true ↔ op = .neq := by
  intro tokens length run
  obtain ⟨verdict, hgives, hsplits, -⟩ := threshold_splits_unless_nan "tokens" (by decide) _ rfl
    tokens rfl run (by decide) (by decide)
  obtain ⟨verdict', hgives', -, hneq⟩ := threshold_splits_unless_nan "length" (by decide) _ rfl
    length rfl run (by decide) (by decide)
  have hnumber : ¬ SaysNaNUnder tokens "tokens" := by
    rintro ⟨s, hs, hsays⟩
    cases hs
    exact absurd hsays (by decide)
  have hnan : SaysNaNUnder length "length" := ⟨_, rfl, by decide⟩
  exact ⟨_, _, verdict, verdict', rfl, rfl, hgives, hsplits.mpr hnumber, rfl, rfl, hgives',
    hneq hnan⟩

/-- A run of a second is neither below nor at nor above a duration that is not a number. -/
theorem nan_threshold_splits_nothing :
    ¬ ∀ (id : String) (filter : Filter) (params : Json.Object) (run : Run)
      (verdict : Operator → Bool),
      id = "duration" ∨ id = "cost" ∨ id = "tokens" ∨ id = "length" →
      Registry.builtin.lookup? id = some filter → filter.validate params = .ok () →
      (id = "duration" → run.endedAt ≠ none) →
      (id = "cost" → ∃ c, run.cost = some c ∧ c.isFinite = true) →
      Gives id params run verdict → Operator.Splits verdict := by
  intro h
  let params : Json.Object := .ofList [("operator", .string "gt"), ("duration", .string "nan")]
  let run := ({} : VirtualRun).runUntil ⟨0, 0, by decide⟩ (some ⟨1, 0, by decide⟩)
  obtain ⟨x, hx, hgives⟩ : ∃ x, (⟨"duration", params⟩ : ParamReader).number "duration" = .ok x ∧
      Gives "duration" params run _ := exists_gives_numeric (by decide) rfl rfl rfl
  cases hx
  have hsplits := h "duration" _ params run _ (.inl rfl) rfl rfl
    (fun _ => Option.some_ne_none _) (by decide) hgives
  exact Operator.not_splits_of_isNaN (by decide) hsplits

end Filter

end RunRadar
