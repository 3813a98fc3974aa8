import RunRadar.Proofs.Engine.Call

/-!
# RunRadar.Proofs.Engine.Reserve

Evaluators **in reserve**: a filter that storage can decide may have an evaluator as well, and the
interpreter never calls it. Taken out of the registry, it is missed by nobody
(`Interpreter.evaluateAt_withoutReserve`).
-/

namespace RunRadar

open RunRadar.Action

namespace Interpreter

variable {σ : Type} {interpreter : Interpreter σ} {run : Run}

section Congruence

variable {interpreter' : Interpreter σ}
  (h : ∀ l, interpreter.evaluateLeaf run l = interpreter'.evaluateLeaf run l)

include h

/-- Interpreters that evaluate leaves alike evaluate trees alike. -/
theorem task_congr (pace : Pace) (t : Tree) :
    interpreter.task pace run t = interpreter'.task pace run t := by
  induction t using Tree.operand_induction with
  | identity op => rfl
  | leaf l => rw [task, task, h l]
  | combine op ts ih =>
      cases op with
      | and =>
          have hall : interpreter.taskOfAll pace run ts = interpreter'.taskOfAll pace run ts := by
            induction ts with
            | nil => rfl
            | cons t ts ihs =>
                rw [taskOfAll, taskOfAll, ih t List.mem_cons_self,
                  ihs fun s hs => ih s (List.mem_cons_of_mem _ hs)]
          rw [task, task, hall]
      | or =>
          have hpass : interpreter.taskUpToPass pace run ts =
              interpreter'.taskUpToPass pace run ts := by
            induction ts with
            | nil => rfl
            | cons t ts ihs =>
                rw [taskUpToPass, taskUpToPass, ih t List.mem_cons_self,
                  ihs fun s hs => ih s (List.mem_cons_of_mem _ hs)]
          rw [task, task, hpass]

end Congruence

end Interpreter

/-- The filter without an evaluator, where storage can decide. -/
def Filter.withoutReserve (filter : Filter) : Filter :=
  match filter.kind with
  | .hybrid build _ => { filter with kind := .pushdown build }
  | _ => filter

@[simp] theorem Filter.id_withoutReserve (filter : Filter) :
    filter.withoutReserve.id = filter.id := by
  unfold withoutReserve
  split <;> rfl

/-- The registry without the evaluators of filters that storage can decide. -/
def Registry.withoutReserve (registry : Registry) : Registry :=
  ⟨registry.filters.map Filter.withoutReserve, by
    simpa [Filter.ids, Function.comp_def] using registry.nodup⟩

theorem Registry.lookup?_withoutReserve (registry : Registry) (id : String) :
    registry.withoutReserve.lookup? id = (registry.lookup? id).map Filter.withoutReserve := by
  have hid : (fun f : Filter => decide (f.id = id)) ∘ Filter.withoutReserve =
      fun f => decide (f.id = id) := funext fun f => by simp
  rw [lookup?_eq_find?, lookup?_eq_find?, withoutReserve, List.find?_map, hid]

namespace Interpreter

variable {σ : Type} {registry registry' : Registry} {storage : Storage σ}
  {rescan : Action σ (Except ScanError ScanReport)} {run : Run}

/-- Following a consultation has nothing to do with the filters. -/
theorem follow_registry (c : Consultation) :
    (⟨registry, storage, rescan⟩ : Interpreter σ).follow c =
      (⟨registry', storage, rescan⟩ : Interpreter σ).follow c := by
  induction c with
  | answer result => rfl
  | rescan next ih =>
      funext e
      exact congrFun (ih _) _

/-- Without the evaluators in reserve, trees are evaluated as with them. -/
theorem evaluateAt_withoutReserve (pace : Pace) (t : Tree) :
    (⟨registry.withoutReserve, storage, rescan⟩ : Interpreter σ).evaluateAt pace run t =
      (⟨registry, storage, rescan⟩ : Interpreter σ).evaluateAt pace run t := by
  refine congrArg Task.finish (task_congr (fun l => ?_) pace t)
  unfold evaluateLeaf
  rw [Registry.lookup?_withoutReserve]
  cases registry.lookup? l.id with
  | none => rfl
  | some filter =>
      obtain ⟨id, schema, kind⟩ := filter
      cases kind with
      | pushdown build => rfl
      | evaluator evaluate =>
          have hconsult (evaluate : Evaluator) :
              (⟨registry.withoutReserve, storage, rescan⟩ : Interpreter σ).consult evaluate run l =
                (⟨registry, storage, rescan⟩ : Interpreter σ).consult evaluate run l :=
            funext fun e => congrFun (follow_registry _) _
          simp only [Option.map_some, Filter.withoutReserve, evaluateFilter, hconsult]
      | hybrid build evaluate =>
          -- storage decides, or the params are rejected, before an evaluator is looked for
          let filter : Filter := ⟨id, schema, .hybrid build evaluate⟩
          let stored : Filter := ⟨id, schema, .pushdown build⟩
          show Interpreter.evaluateFilter ⟨registry.withoutReserve, storage, rescan⟩ run l stored =
            Interpreter.evaluateFilter ⟨registry, storage, rescan⟩ run l filter
          have hsame : stored.validate l.params = filter.validate l.params := rfl
          cases hv : filter.validate l.params with
          | error fault =>
              rw [evaluateFilter_of_rejected hv, evaluateFilter_of_rejected (hsame.trans hv)]
          | ok _ =>
              have hfilter : filter.predicate? l.params = some (build (filter.reader l.params)) :=
                Filter.predicate?_of_fits rfl hv
              have hstored : stored.predicate? l.params = some (build (filter.reader l.params)) :=
                Filter.predicate?_of_fits rfl (hsame.trans hv)
              simp only [evaluateFilter, hfilter, hstored]
              cases build (filter.reader l.params) <;> rfl

end Interpreter

end RunRadar
