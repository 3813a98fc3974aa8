import RunRadar.Proofs.Engine.Evaluation
import RunRadar.Proofs.Filter.Params

/-!
# RunRadar.Proofs.Engine.Call

What a **leaf calls**. It calls storage or an evaluator once at most (`Leaf.call?`). An evaluator
may go on and start scans, whose calls stand behind its own on the record (`Interpreter.Aside`), and
nothing else does (`Interpreter.exists_record`).

Storage and evaluators are arbitrary. All that is asked of the scans which evaluators start is that
they leave the record of earlier calls alone.
-/

namespace RunRadar

open RunRadar.Action

namespace Leaf

/-- The call that a leaf makes: of storage where storage can decide the filter, and of the
evaluator where there is nothing else. Filters that are not registered and params that are rejected
make none. -/
def call? (registry : Registry) (run : Run) (l : Leaf) : Option Call :=
  match registry.lookup? l.id with
  | none => none
  | some filter =>
    match filter.validate l.params with
    | .error _ => none
    | .ok () =>
      match filter.kind with
      | .evaluator _ => some (.consult l.id run.id)
      | .pushdown build | .hybrid build _ =>
        (build (filter.reader l.params)).toOption.map (.runMatches run.id)

/-- At some moment, the evaluator that the leaf calls starts a scan. -/
def StartsScan (registry : Registry) (run : Run) (l : Leaf) : Prop :=
  ∃ filter evaluate moment next, registry.lookup? l.id = some filter ∧
    filter.kind = .evaluator evaluate ∧ evaluate moment run ⟨l.id, l.params⟩ = .rescan next

variable {registry : Registry} {run : Run} {l : Leaf}

/-- Only filters without a condition have their evaluators called. -/
theorem exists_evaluator_of_call? {filter : String} {id : Uuid}
    (h : l.call? registry run = some (.consult filter id)) :
    ∃ f evaluate, registry.lookup? l.id = some f ∧ f.kind = .evaluator evaluate := by
  unfold call? at h
  split at h
  · cases h
  · next f hf =>
      split at h
      · cases h
      · split at h
        · next evaluate hkind => exact ⟨f, evaluate, hf, hkind⟩
        · obtain ⟨_, _, hcall⟩ := Option.map_eq_some_iff.mp h
          cases hcall
        · obtain ⟨_, _, hcall⟩ := Option.map_eq_some_iff.mp h
          cases hcall

end Leaf

namespace Interpreter

variable {σ : Type} {interpreter : Interpreter σ} {run : Run}

section Filters

variable {filter : Filter} {l : Leaf}

/-- Storage is asked about the condition that the params make, if they make one. -/
theorem calls_evaluateFilter {build : ConditionBuilder} (hb : filter.builder? = some build)
    (hv : filter.validate l.params = .ok ()) (e : Engine σ) :
    (interpreter.evaluateFilter run l filter e).2.calls = e.calls ++
      ((build (filter.reader l.params)).toOption.map (Call.runMatches run.id)).toList := by
  simp only [evaluateFilter, Filter.predicate?_of_fits hb hv]
  cases build (filter.reader l.params) with
  | error fault => exact (List.append_nil _).symm
  | ok p =>
      simp only [bind_apply]
      cases (runMatches interpreter.storage run p e).1 <;> rfl

/-- Params that are rejected end the evaluation of a leaf. -/
theorem evaluateFilter_of_rejected {fault : ParamError}
    (hv : filter.validate l.params = .error fault) :
    interpreter.evaluateFilter run l filter = pure (.error (.params fault)) := by
  simp only [evaluateFilter, Filter.predicate?, Filter.builder?, Filter.evaluator?, hv]
  cases filter.kind <;> rfl

end Filters

/-! ### Records -/

/-- What the scans leave on record that an evaluator starts: the calls of each scan, and then what
the scan came to. -/
inductive Aside (interpreter : Interpreter σ) : List Call → Prop
  | nil : Aside interpreter []
  | scan {e : Engine σ} {made aside : List Call}
    (made_eq : (interpreter.rescan e).2.calls = e.calls ++ made)
    (rest : Aside interpreter aside) :
    Aside interpreter (made ++ .rescanned e.flight.running (interpreter.rescan e).1 :: aside)

/-- What a leaf leaves on record: its own call, if it makes one, and behind it that of scans, where
its evaluator starts some. -/
def Records (interpreter : Interpreter σ) (run : Run) (l : Leaf) (record : List Call) : Prop :=
  ∃ aside, record = (l.call? interpreter.registry run).toList ++ aside ∧
    interpreter.Aside aside ∧ (aside = [] ∨ l.StartsScan interpreter.registry run)

section Records

variable (hrescan : ∀ e, e.calls <+: (interpreter.rescan e).2.calls)

include hrescan

/-- Following a consultation leaves on record what the scans leave there that it starts. -/
theorem exists_aside_follow (c : Consultation) (e : Engine σ) :
    ∃ aside, (interpreter.follow c e).2.calls = e.calls ++ aside ∧ interpreter.Aside aside := by
  induction c generalizing e with
  | answer result => exact ⟨[], (List.append_nil _).symm, .nil⟩
  | rescan next ih =>
      obtain ⟨made, hmade⟩ := hrescan e
      let after : Engine σ :=
        (call (.rescanned e.flight.running (interpreter.rescan e).1) (interpreter.rescan e).2).2
      obtain ⟨aside, hcalls, haside⟩ := ih (interpreter.rescan e).1 after
      have hfollow : interpreter.follow (.rescan next) e =
          interpreter.follow (next (interpreter.rescan e).1) after := rfl
      have hafter : after.calls = (interpreter.rescan e).2.calls ++
          [.rescanned e.flight.running (interpreter.rescan e).1] := rfl
      refine ⟨_, ?_, .scan hmade.symm haside⟩
      rw [hfollow, hcalls, hafter, ← hmade]
      simp only [List.append_assoc, List.singleton_append]

/-- Asking an evaluator puts that on record, and behind it only what scans leave there. -/
theorem exists_aside_consult (evaluate : Evaluator) (run : Run) (l : Leaf) (e : Engine σ) :
    ∃ aside, (interpreter.consult evaluate run l e).2.calls =
        e.calls ++ .consult l.id run.id :: aside ∧ interpreter.Aside aside ∧
      (aside = [] ∨ ∃ next, evaluate e.consultations run ⟨l.id, l.params⟩ = .rescan next) := by
  let asked : Engine σ := { e with
    calls := e.calls ++ [.consult l.id run.id], consultations := e.consultations + 1 }
  have hconsult : interpreter.consult evaluate run l e =
      interpreter.follow (evaluate e.consultations run ⟨l.id, l.params⟩) asked := rfl
  cases hc : evaluate e.consultations run ⟨l.id, l.params⟩ with
  | answer result => exact ⟨[], by rw [hconsult, hc]; rfl, .nil, .inl rfl⟩
  | rescan next =>
      obtain ⟨aside, hcalls, haside⟩ := exists_aside_follow hrescan (.rescan next) asked
      refine ⟨aside, ?_, haside, .inr ⟨next, rfl⟩⟩
      rw [hconsult, hc, hcalls, List.append_assoc]
      rfl

/-- Evaluating a leaf puts its call on record, and behind it only what scans leave there. -/
theorem exists_record (run : Run) (l : Leaf) (e : Engine σ) :
    ∃ record, (interpreter.evaluateLeaf run l e).2.calls = e.calls ++ record ∧
      interpreter.Records run l record := by
  have own (h : (interpreter.evaluateLeaf run l e).2.calls =
      e.calls ++ (l.call? interpreter.registry run).toList) :
      ∃ record, (interpreter.evaluateLeaf run l e).2.calls = e.calls ++ record ∧
        interpreter.Records run l record :=
    ⟨_, h, [], (List.append_nil _).symm, .nil, .inl rfl⟩
  cases hl : interpreter.registry.lookup? l.id with
  | none => exact own (by simp only [evaluateLeaf, Leaf.call?, hl]; exact (List.append_nil _).symm)
  | some filter =>
      have hleaf : interpreter.evaluateLeaf run l = interpreter.evaluateFilter run l filter := by
        simp only [evaluateLeaf, hl]
      cases hv : filter.validate l.params with
      | error fault =>
          refine own ?_
          rw [hleaf, evaluateFilter_of_rejected hv]
          simp only [Leaf.call?, hl, hv]
          exact (List.append_nil _).symm
      | ok _ =>
          cases hk : filter.kind with
          | pushdown build =>
              refine own ?_
              rw [hleaf, calls_evaluateFilter (by rw [Filter.builder?, hk]) hv]
              simp only [Leaf.call?, hl, hv, hk]
          | hybrid build _ =>
              refine own ?_
              rw [hleaf, calls_evaluateFilter (by rw [Filter.builder?, hk]) hv]
              simp only [Leaf.call?, hl, hv, hk]
          | evaluator evaluate =>
              have hcall : l.call? interpreter.registry run = some (.consult l.id run.id) := by
                simp only [Leaf.call?, hl, hv, hk]
              have hengine : (interpreter.evaluateFilter run l filter e).2 =
                  (interpreter.consult evaluate run l e).2 := by
                simp only [evaluateFilter, Filter.predicate?, Filter.builder?, Filter.evaluator?,
                  hk, hv, bind_apply]
                cases (interpreter.consult evaluate run l e).1 <;> rfl
              obtain ⟨aside, hcalls, haside, hscan⟩ :=
                exists_aside_consult hrescan evaluate run l e
              refine ⟨_, by rw [hleaf, hengine, hcalls], aside, by rw [hcall]; rfl, haside, ?_⟩
              rcases hscan with hquiet | ⟨next, hnext⟩
              · exact .inl hquiet
              · exact .inr ⟨filter, evaluate, _, next, hl, hk, hnext⟩

end Records

end Interpreter

end RunRadar
