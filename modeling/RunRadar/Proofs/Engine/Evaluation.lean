import RunRadar.Proofs.Engine.Denotation
import RunRadar.Proofs.Engine.Task

/-!
# RunRadar.Proofs.Engine.Evaluation

The interpreter **computes what trees come to**. Over a store in memory a leaf comes to
`Leaf.answer`, as long as the evaluator that it asks is a function of run and params, and then
a tree comes to what `Tree.outcome` makes of that. Evaluators that are no such functions, and
may even start scans of their own, still leave the store and the guard alone wherever the scans
that they start do.

Both facts are lifted from leaves to trees, which never asks what a leaf does.
-/

namespace RunRadar

open RunRadar.Action

/-! ### Evaluators -/

/-- What a consultation comes to when all scans that it starts are refused. -/
def Consultation.settle : Consultation → Except EvaluatorError Verdict
  | .answer result => result
  | .rescan next => (next (.ok .skipped)).settle

/-- The verdict of an evaluator that has not been consulted before. -/
def Evaluator.verdict (evaluate : Evaluator) (run : Run) (params : ParamReader) :
    Except EvaluatorError Verdict := (evaluate 0 run params).settle

/-- A function of run and params gives that verdict at every moment, and without a scan. -/
theorem Evaluator.IsSteady.eq_answer {evaluate : Evaluator} (h : evaluate.IsSteady)
    (moment : Nat) (run : Run) (params : ParamReader) :
    evaluate moment run params = .answer (evaluate.verdict run params) := by
  obtain ⟨decide, rfl⟩ := h
  rfl

/-- A filter that storage cannot decide has an evaluator, and nothing else. -/
theorem Filter.builder?_eq_none_iff (filter : Filter) :
    filter.builder? = none ↔ ∃ evaluate, filter.kind = .evaluator evaluate := by
  unfold builder?
  cases filter.kind <;> simp

/-- A filter has no condition exactly when storage cannot decide it. -/
theorem Filter.predicate?_eq_none_iff (filter : Filter) {params : Json.Object} :
    filter.predicate? params = none ↔ filter.builder? = none := by
  unfold predicate?
  cases filter.builder? with
  | none => simp
  | some build => cases filter.validate params <;> simp

/-- Whether the evaluators of a registry are functions of run and params. -/
def Registry.IsSteady (registry : Registry) : Prop :=
  ∀ filter ∈ registry.filters, ∀ evaluate, filter.evaluator? = some evaluate →
    evaluate.IsSteady

/-- A registry of one filter with such an evaluator. -/
theorem Registry.isSteady_ofList_singleton (id : String) (schema : List ParamSpec)
    (decide : Run → ParamReader → Except EvaluatorError Verdict) :
    (Registry.ofList [⟨id, schema, .evaluator (.steady decide)⟩]).IsSteady := by
  intro filter hfilter evaluate hevaluate
  obtain rfl := List.mem_singleton.mp hfilter
  cases hevaluate
  exact Evaluator.isSteady_steady decide

namespace Leaf

/-- Whether the evaluator that a leaf asks, if it asks one, is a function of run and params.
Where storage can decide, no evaluator is asked. -/
def IsSteady (registry : Registry) (l : Leaf) : Prop :=
  ∀ filter evaluate, registry.lookup? l.id = some filter → filter.builder? = none →
    filter.evaluator? = some evaluate → evaluate.IsSteady

theorem isSteady_of_registry {registry : Registry} (h : registry.IsSteady) (l : Leaf) :
    l.IsSteady registry := by
  intro filter evaluate hl _ he
  exact h filter (Registry.mem_of_lookup? hl) evaluate he

/-! ### Answers of leaves -/

/-- What a leaf comes to on a run, over a store in memory with some faults. A filter that is
not registered passes. Params that do not fit are rejected. Otherwise a filter that storage can
decide passes when its condition holds of the run, unless the run cannot be tested, and any
other filter passes when its evaluator says so. -/
def answer (registry : Registry) (faults : Faults) (run : Run) (l : Leaf) : Evaluated :=
  match registry.lookup? l.id with
  | none => .ok .pass
  | some filter =>
    match filter.predicate? l.params with
    | some (.error e) => .error (.params e)
    | some (.ok p) =>
      if faults.runMatches.contains run.id then .error (.storage (.poisoned .runs))
      else .ok (.ofFilter l.id (p.holds run))
    | none =>
      match filter.evaluator? with
      | none => .ok .pass
      | some evaluate =>
        match filter.validate l.params with
        | .error e => .error (.params e)
        | .ok () =>
          match evaluate.verdict run ⟨l.id, l.params⟩ with
          | .error e => .error (.evaluator e)
          | .ok verdict => .ok (Interpreter.verdictOutcome l.id verdict)

/-- A leaf that answers in spite of faults answers the same without them. -/
theorem answer_faultless {registry : Registry} {faults : Faults} {run : Run} {l : Leaf}
    {o : Outcome} (h : l.answer registry faults run = .ok o) :
    l.answer registry {} run = .ok o := by
  rw [← h]
  unfold answer at h ⊢
  cases hl : registry.lookup? l.id with
  | none => rfl
  | some filter =>
      rw [hl] at h
      dsimp only at h ⊢
      cases hp : filter.predicate? l.params with
      | none => rfl
      | some built =>
          rw [hp] at h
          cases built with
          | error e => rfl
          | ok p =>
              dsimp only at h ⊢
              split at h
              · cases h
              · next hf => rw [if_neg hf, if_neg (by simp)]

end Leaf

namespace Interpreter

/-! ### From leaves to trees -/

/-- A property of what trees come to that nodes have whenever their operands have it. -/
structure IsCompositional (Q : Tree → Evaluated → Prop) : Prop where
  exists_result : ∀ t, ∃ r, Q t r
  identity : ∀ op, Q (.identity op) (.ok (.bare op.identity))
  combine : ∀ op ts rs, List.Forall₂ Q ts rs → Q (.combine op ts) (op.joinOutcomes rs)

theorem eq_map_of_forall₂ {answer : Leaf → Evaluated} {ts : List Tree} {rs : List Evaluated}
    (h : List.Forall₂ (fun t r => r = t.outcome answer) ts rs) :
    rs = ts.map (Tree.outcome answer) := by
  induction h with
  | nil => rfl
  | cons hr _ ih => rw [hr, ih, List.map_cons]

/-- What trees come to by the answers of their leaves is one. -/
theorem isCompositional_outcome (answer : Leaf → Evaluated) :
    IsCompositional fun t r => r = t.outcome answer where
  exists_result _ := ⟨_, rfl⟩
  identity _ := rfl
  combine op ts rs h := by rw [Tree.outcome_combine, eq_map_of_forall₂ h]

/-- So is having come to anything. -/
theorem isCompositional_true : IsCompositional fun _ _ => True where
  exists_result _ := ⟨.ok .pass, trivial⟩
  identity _ := trivial
  combine _ _ _ _ := trivial

end Interpreter

namespace Tree

/-- A tree as checks see it, a connective with operands. -/
def asNode : Tree → Connective × List Tree
  | .identity op => (op, [])
  | .leaf l => (.and, [.leaf l])
  | .combine op operands => (op, operands)

theorem mem_leaves_of_mem_asNode {t s : Tree} (hs : s ∈ t.asNode.2) {l : Leaf}
    (hl : l ∈ s.leaves) : l ∈ t.leaves := by
  cases t with
  | identity op => cases hs
  | leaf l' => rwa [List.mem_singleton.mp hs] at hl
  | combine op ts => simpa using ⟨s, hs, hl⟩

theorem checked_eq (t : Tree) (answer : Leaf → Evaluated) :
    t.checked answer = t.asNode.1.checkOutcomes (t.asNode.2.map (outcome answer)) := by
  cases t <;> rfl

end Tree

namespace Interpreter

section Trees

variable {σ : Type} {interpreter : Interpreter σ} {pace : Pace} {run : Run}
  {I : Engine σ → Prop} {Q : Tree → Evaluated → Prop}

theorem runChecksAt_eq (t : Tree) :
    interpreter.runChecksAt pace run t =
      interpreter.checkOperands pace run t.asNode.1 t.asNode.2 := by
  cases t <;> rfl

theorem IsCompositional.exists_results (hQ : IsCompositional Q) (ts : List Tree) :
    ∃ rs, List.Forall₂ Q ts rs := by
  induction ts with
  | nil => exact ⟨[], .nil⟩
  | cons t ts ih =>
      obtain ⟨r, hr⟩ := hQ.exists_result t
      obtain ⟨rs, hrs⟩ := ih
      exact ⟨r :: rs, .cons hr hrs⟩

section Operands

variable {ts : List Tree}

/-- Evaluating all operands comes to something for each of them. -/
theorem ensures_taskOfAll (operand : ∀ t ∈ ts, (interpreter.task pace run t).Ensures I (Q t)) :
    (interpreter.taskOfAll pace run ts).Ensures I (List.Forall₂ Q ts) := by
  induction ts with
  | nil => exact Task.ensures_pure .nil
  | cons t ts ih =>
      have hrest := ih fun s hs => operand s (List.mem_cons_of_mem _ hs)
      exact (operand t List.mem_cons_self).both hrest fun r rs hr hrs => .cons hr hrs

variable (hQ : IsCompositional Q)

include hQ

/-- Evaluating operands until one passes finds the first one that does, whatever those behind it
may come to. -/
theorem ensures_taskUpToPass
    (operand : ∀ t ∈ ts, (interpreter.task pace run t).Ensures I (Q t)) :
    (interpreter.taskUpToPass pace run ts).Ensures I
      fun found => ∃ rs, List.Forall₂ Q ts rs ∧ found = firstPassing rs := by
  induction ts with
  | nil => exact Task.ensures_pure ⟨[], .nil, rfl⟩
  | cons t ts ih =>
      refine (operand t List.mem_cons_self).bind fun r hr => ?_
      obtain ⟨rest, hrest⟩ := hQ.exists_results ts
      cases r with
      | error e => exact Task.ensures_pure ⟨.error e :: rest, .cons hr hrest, rfl⟩
      | ok o =>
          dsimp only
          split
          · next hp => exact Task.ensures_pure ⟨.ok o :: rest, .cons hr hrest, (if_pos hp).symm⟩
          · next hp =>
            have hbehind := ih fun s hs => operand s (List.mem_cons_of_mem _ hs)
            refine hbehind.mono fun found hfound => ?_
            obtain ⟨rs, hrs, rfl⟩ := hfound
            exact ⟨.ok o :: rs, .cons hr hrs, (if_neg hp).symm⟩

/-- Evaluating operands until one decides comes to what all of them decide. -/
theorem ensures_checkOperands (op : Connective)
    (operand : ∀ t ∈ ts, Ensures I (interpreter.evaluateAt pace run t) (Q t)) :
    Ensures I (interpreter.checkOperands pace run op ts)
      fun c => ∃ rs, List.Forall₂ Q ts rs ∧ c = op.checkOutcomes rs := by
  induction ts with
  | nil => exact ensures_pure ⟨[], .nil, rfl⟩
  | cons t ts ih =>
      refine (operand t List.mem_cons_self).bind fun r hr => ?_
      obtain ⟨rest, hrest⟩ := hQ.exists_results ts
      cases r with
      | error e => exact ensures_pure ⟨.error e :: rest, .cons hr hrest, rfl⟩
      | ok o =>
          dsimp only
          split
          · next hp =>
            refine (ih fun s hs => operand s (List.mem_cons_of_mem _ hs)).bind fun c hc => ?_
            obtain ⟨rs, hrs, rfl⟩ := hc
            exact ensures_pure ⟨.ok o :: rs, .cons hr hrs, (if_pos hp).symm⟩
          · next hp => exact ensures_pure ⟨.ok o :: rest, .cons hr hrest, (if_neg hp).symm⟩

end Operands

variable {t : Tree}

section Leaves

variable (hQ : IsCompositional Q)
  (hleaf : ∀ l ∈ t.leaves, Ensures I (interpreter.evaluateLeaf run l) (Q (.leaf l)))

include hQ hleaf

/-- Trees come to something with the property when their leaves do, however long calls are waited
for. -/
theorem ensures_task : (interpreter.task pace run t).Ensures I (Q t) := by
  induction t using Tree.operand_induction with
  | identity op => exact Task.ensures_pure (hQ.identity op)
  | leaf l => exact Task.ensures_called (hleaf l (List.mem_singleton_self l)) pace
  | combine op ts ih =>
      have operand : ∀ t ∈ ts, (interpreter.task pace run t).Ensures I (Q t) :=
        fun t ht => ih t ht fun l hl => hleaf l (by simpa using ⟨t, ht, hl⟩)
      cases op with
      | and =>
          refine (ensures_taskOfAll operand).bind fun rs hrs => Task.ensures_pure ?_
          exact hQ.combine .and ts rs hrs
      | or =>
          refine (ensures_taskUpToPass hQ operand).bind fun found hfound => Task.ensures_pure ?_
          obtain ⟨rs, hrs, rfl⟩ := hfound
          rw [hrs.length_eq]
          exact hQ.combine .or ts rs hrs

/-- Checks come to what operands with the property decide. -/
theorem ensures_checks :
    Ensures I (interpreter.runChecksAt pace run t)
      fun c => ∃ rs, List.Forall₂ Q t.asNode.2 rs ∧ c = t.asNode.1.checkOutcomes rs := by
  rw [runChecksAt_eq]
  refine ensures_checkOperands hQ _ fun s hs => ?_
  exact (ensures_task hQ fun l hl => hleaf l (Tree.mem_leaves_of_mem_asNode hs hl)).finish

end Leaves

/-- A tree comes to its outcome when each of its leaves comes to its answer. -/
theorem ensures_evaluateAt {answer : Leaf → Evaluated}
    (h : ∀ l ∈ t.leaves, Ensures I (interpreter.evaluateLeaf run l) (· = answer l)) :
    Ensures I (interpreter.evaluateAt pace run t) (· = t.outcome answer) :=
  (ensures_task (isCompositional_outcome answer) h).finish

/-- Checks come to what their leaves decide. -/
theorem ensures_runChecksAt {answer : Leaf → Evaluated}
    (h : ∀ l ∈ t.leaves, Ensures I (interpreter.evaluateLeaf run l) (· = answer l)) :
    Ensures I (interpreter.runChecksAt pace run t) (· = t.checked answer) := by
  refine (ensures_checks (isCompositional_outcome answer) h).mono fun c hc => ?_
  obtain ⟨rs, hrs, rfl⟩ := hc
  rw [Tree.checked_eq, eq_map_of_forall₂ hrs]

section Frames

variable (h : ∀ l ∈ t.leaves, Keeps I (interpreter.evaluateLeaf run l))

include h

/-- Checks keep what each of their leaves keeps. -/
theorem keeps_runChecksAt : Keeps I (interpreter.runChecksAt pace run t) :=
  (ensures_checks isCompositional_true fun l hl => (h l hl).ensures).keeps

end Frames

/-- A leaf keeps what the request that it stands for keeps, or else the evaluator that it asks. -/
theorem keeps_evaluateLeaf_of {l : Leaf}
    (hrequest : ∀ p, Keeps I (runMatches interpreter.storage run p))
    (hconsult : ∀ filter evaluate, interpreter.registry.lookup? l.id = some filter →
      filter.builder? = none → filter.evaluator? = some evaluate →
        Keeps I (interpreter.consult evaluate run l)) :
    Keeps I (interpreter.evaluateLeaf run l) := by
  unfold evaluateLeaf
  cases hl : interpreter.registry.lookup? l.id with
  | none => exact keeps_pure _
  | some filter =>
      dsimp only [evaluateFilter]
      cases hp : filter.predicate? l.params with
      | some built =>
          cases built with
          | error err => exact keeps_pure _
          | ok p =>
              refine (hrequest p).bind fun r => ?_
              cases r <;> exact keeps_pure _
      | none =>
          cases he : filter.evaluator? with
          | none => exact keeps_pure _
          | some evaluate =>
              dsimp only
              cases filter.validate l.params with
              | error err => exact keeps_pure _
              | ok _ =>
                  have hb := filter.predicate?_eq_none_iff.mp hp
                  refine (hconsult filter evaluate hl hb he).bind fun r => ?_
                  cases r <;> exact keeps_pure _

end Trees

/-! ### Leaves over a store in memory -/

section Leaves

variable {registry : Registry} {rescan : Action Memory (Except ScanError ScanReport)}
  {run : Run} {l : Leaf} {m : Memory} {flight : Flight}

/-- The interpreter over a store in memory. -/
abbrev overMemory (registry : Registry) (rescan : Action Memory (Except ScanError ScanReport)) :
    Interpreter Memory := ⟨registry, Memory.storage, rescan⟩

/-- Following a consultation changes nothing that the scans which it starts leave alone. -/
theorem keeps_follow (h : Keeps (Engine.At m flight) rescan) (c : Consultation) :
    Keeps (Engine.At m flight) ((overMemory registry rescan).follow c) := by
  induction c with
  | answer result => exact keeps_pure _
  | rescan next ih =>
      intro e he
      have hreport := h e he
      exact ih _ _ (keeps_call _ _ hreport)

/-- Asking an evaluator changes nothing that the scans which it starts leave alone. -/
theorem keeps_consult (h : Keeps (Engine.At m flight) rescan) (evaluate : Evaluator) :
    Keeps (Engine.At m flight) ((overMemory registry rescan).consult evaluate run l) := by
  intro e he
  exact keeps_follow h _ _ ⟨he.store, he.flight⟩

/-- An evaluator that is a function of run and params is asked once and gives its verdict. -/
theorem ensures_consult {evaluate : Evaluator} (h : evaluate.IsSteady) :
    Ensures (Engine.At m flight) ((overMemory registry rescan).consult evaluate run l)
      (· = evaluate.verdict run ⟨l.id, l.params⟩) := by
  intro e he
  simp only [consult, bind_apply, call_apply, get_apply, modify_apply, h.eq_answer, follow,
    pure_apply, true_and]
  exact ⟨he.store, he.flight⟩

/-- Evaluating a leaf changes nothing that the scans which its evaluator starts leave alone. -/
theorem keeps_evaluateLeaf (h : Keeps (Engine.At m flight) rescan) :
    Keeps (Engine.At m flight) ((overMemory registry rescan).evaluateLeaf run l) :=
  keeps_evaluateLeaf_of (fun _ => ensures_runMatches.keeps)
    fun _ evaluate _ _ _ => keeps_consult h evaluate

/-- A leaf comes to its answer, as long as the evaluator that it asks is a function of run and
params. -/
theorem ensures_evaluateLeaf (h : l.IsSteady registry) :
    Ensures (Engine.At m flight) ((overMemory registry rescan).evaluateLeaf run l)
      (· = l.answer registry m.faults run) := by
  unfold evaluateLeaf Leaf.answer
  cases hl : registry.lookup? l.id with
  | none => exact ensures_pure rfl
  | some filter =>
      dsimp only [evaluateFilter]
      cases hp : filter.predicate? l.params with
      | some built =>
          cases built with
          | error e => exact ensures_pure rfl
          | ok p =>
              refine ensures_runMatches.bind fun r hr => ?_
              rw [hr, Memory.answer]
              by_cases hf : m.faults.runMatches.contains run.id = true
              · simp only [if_pos hf]
                exact ensures_pure rfl
              · simp only [if_neg hf]
                exact ensures_pure rfl
      | none =>
          cases he : filter.evaluator? with
          | none => exact ensures_pure rfl
          | some evaluate =>
              dsimp only
              cases filter.validate l.params with
              | error e => exact ensures_pure rfl
              | ok _ =>
                  -- only here is an evaluator asked, and so required to be a function
                  have hb := filter.predicate?_eq_none_iff.mp hp
                  refine (ensures_consult (h filter evaluate hl hb he)).bind fun r hr => ?_
                  rw [← hr]
                  cases r <;> exact ensures_pure rfl

/-- With such evaluators, checks come to what the answers of their leaves decide. -/
theorem ensures_runChecksAt_answer {pace : Pace} (h : registry.IsSteady) (t : Tree) :
    Ensures (Engine.At m flight) ((overMemory registry rescan).runChecksAt pace run t)
      (· = t.checked (Leaf.answer registry m.faults run)) :=
  ensures_runChecksAt fun l _ => ensures_evaluateLeaf (Leaf.isSteady_of_registry h l)

end Leaves

end Interpreter

end RunRadar
