import RunRadar.Filter.Catalog

/-!
# RunRadar.Proofs.Filter.Catalog

What the **built-in filters** have in common. A registry holds no filters but those that were
registered, and each built-in filter is decided either by storage or by an evaluator that is a
function of run and params and explains its verdict by an object or not at all
(`Filter.explainsByObject_of_mem_catalog`).
-/

namespace RunRadar

/-! ### Where filters come from -/

theorem Filter.mem_of_mem_put {filter f : Filter} {fs : List Filter} (h : f ∈ filter.put fs) :
    f = filter ∨ f ∈ fs := by
  induction fs with
  | nil => exact .inl (List.mem_singleton.mp h)
  | cons f' fs ih =>
      rw [put] at h
      split at h
      · rcases List.mem_cons.mp h with h | h
        · exact .inl h
        · exact .inr (List.mem_cons_of_mem _ h)
      · rcases List.mem_cons.mp h with h | h
        · exact .inr (h ▸ List.mem_cons_self)
        · exact (ih h).imp_right (List.mem_cons_of_mem _)

namespace Registry

/-- The filters of a registry are those that it had and those that were registered. -/
theorem mem_filters_of_registerAll {registry : Registry} {fs : List Filter} {f : Filter}
    (h : f ∈ (registry.registerAll fs).filters) : f ∈ registry.filters ∨ f ∈ fs := by
  induction fs generalizing registry with
  | nil => exact .inl h
  | cons filter fs ih =>
      rcases ih h with h | h
      · rcases Filter.mem_of_mem_put h with rfl | h
        · exact .inr List.mem_cons_self
        · exact .inl h
      · exact .inr (List.mem_cons_of_mem _ h)

/-- A filter that is found in a registry of some filters is one of them. -/
theorem mem_of_lookup?_ofList {fs : List Filter} {id : String} {f : Filter}
    (h : (ofList fs).lookup? id = some f) : f ∈ fs := by
  rcases mem_filters_of_registerAll (mem_of_lookup? h) with h | h
  · exact absurd h List.not_mem_nil
  · exact h

end Registry

/-! ### Who decides -/

/-- A filter that storage decides asks no evaluator. -/
theorem Filter.Stored.evaluator?_eq_none {filter : Filter} (h : filter ∈ filters) :
    filter.evaluator? = none := by
  revert filter
  simp [filters, define, evaluator?]

/-- Storage decides no filter that looks through texts. -/
theorem Filter.Scanned.isPushdown_eq_false {filter : Filter} (h : filter ∈ filters) :
    filter.isPushdown = false := by
  revert filter
  simp [filters, define, isPushdown, builder?]

/-! ### Explanations -/

/-- What is said beside a verdict is an object or nothing. -/
def Verdict.IsExplainedByObject (verdict : Verdict) : Prop :=
  ∀ value, verdict.details = some value → ∃ fields, value = .object fields

/-- The evaluator of a filter, if it has one, is a function of run and params, and explains
its verdicts by objects. -/
def Filter.ExplainsByObject (filter : Filter) : Prop :=
  ∀ evaluate, filter.evaluator? = some evaluate →
    ∃ decide, evaluate = .steady decide ∧ ∀ run params verdict,
      decide run params = .ok verdict → verdict.IsExplainedByObject

namespace Filter

namespace Scanned

theorem details_matchVerdict (wanted : Bool) (found : List String) :
    (matchVerdict wanted found).IsExplainedByObject := by
  intro value h
  cases h
  exact ⟨_, rfl⟩

theorem explainsByObject_define {id : String} {schema : List ParamSpec}
    {decide : Run → ParamReader → Except EvaluatorError Verdict}
    (h : ∀ run params verdict, decide run params = .ok verdict →
      verdict.IsExplainedByObject) :
    (define id schema decide).ExplainsByObject := by
  intro evaluate hevaluate
  cases hevaluate
  exact ⟨decide, rfl, h⟩

theorem details_personalData {data : PersonalData} {run : Run} {params : ParamReader}
    {verdict : Verdict} (h : data.evaluate run params = .ok verdict) :
    verdict.IsExplainedByObject := by
  unfold PersonalData.evaluate at h
  split at h
  · cases h
  · split at h
    · cases h
    · cases h
      exact details_matchVerdict _ _

theorem details_pattern {run : Run} {params : ParamReader} {verdict : Verdict}
    (h : pattern run params = .ok verdict) :
    verdict.IsExplainedByObject := by
  unfold pattern at h
  split at h
  · cases h
  · split at h
    · cases h
    · split at h
      · cases h
      · split at h
        · cases h
        · cases h
          exact details_matchVerdict _ _

theorem details_length {run : Run} {params : ParamReader} {verdict : Verdict}
    (h : length run params = .ok verdict) :
    verdict.IsExplainedByObject := by
  unfold length at h
  split at h
  · cases h
  · split at h
    · cases h
    · split at h
      · cases h
      · cases h
        intro value hvalue
        cases hvalue
        exact ⟨_, rfl⟩

theorem details_json {run : Run} {params : ParamReader} {verdict : Verdict}
    (h : json run params = .ok verdict) :
    verdict.IsExplainedByObject := by
  unfold json at h
  split at h
  · cases h
  · split at h
    · cases h
    · cases h
      intro value hvalue
      cases hvalue

end Scanned

/-- Every built-in filter explains its verdict by an object, if at all. -/
theorem explainsByObject_of_mem_catalog {filter : Filter} (h : filter ∈ Registry.catalog) :
    filter.ExplainsByObject := by
  rcases List.mem_append.mp h with h | h
  · -- storage decides
    intro evaluate hevaluate
    rw [Stored.evaluator?_eq_none h] at hevaluate
    cases hevaluate
  · simp only [Scanned.filters, List.mem_cons, List.not_mem_nil, or_false] at h
    rcases h with rfl | rfl | rfl | rfl | rfl | rfl
    · exact Scanned.explainsByObject_define fun _ _ _ => Scanned.details_personalData
    · exact Scanned.explainsByObject_define fun _ _ _ => Scanned.details_personalData
    · exact Scanned.explainsByObject_define fun _ _ _ => Scanned.details_personalData
    · exact Scanned.explainsByObject_define fun _ _ _ => Scanned.details_pattern
    · exact Scanned.explainsByObject_define fun _ _ _ => Scanned.details_length
    · exact Scanned.explainsByObject_define fun _ _ _ => Scanned.details_json

end Filter

end RunRadar
