import RunRadar.Proofs.Engine.Compilation
import RunRadar.Proofs.Scan.History

/-!
# RunRadar.Proofs.Scan.Correctness

**Stored results are right.** Each one belongs to a listed radar with a rule and to a run of the
radar's project in scope, and its verdict is the value of the radar's checks on that run.

Where a result comes from is the same for all kinds of verdicts (`Memory.AccountsFor`), and lasts
along every history. Then it remains to see that both ways of scoring give the right verdict. Of
checks that storage decides, every leaf has an answer, and the condition has the value of the
tree. Of checks that need an evaluator, leaves may fail, and the value is the same whatever they
would have answered.
-/

namespace RunRadar

open RunRadar.Action HistoryStep

/-! ### Rules -/

/-- A radar has a rule when both of its trees can be read and its scope compiles. -/
theorem Radar.trees_of_rule {registry : Registry} {radar : Radar} {rule : Rule}
    (h : radar.rule registry = .ok rule) :
    ∃ view, radar.viewTree = .ok view ∧ radar.checksTree = .ok rule.checks ∧
      view.compile registry = .ok rule.scope := by
  unfold Radar.rule at h
  cases hview : radar.viewTree with
  | error e => rw [hview] at h; cases h
  | ok view =>
      cases hchecks : radar.checksTree with
      | error e => rw [hview, hchecks] at h; cases h
      | ok checks =>
          cases hscope : view.compile registry with
          | error e => simp only [hview, hchecks, hscope] at h; cases h
          | ok scope =>
              simp only [hview, hchecks, hscope] at h
              cases h
              exact ⟨view, rfl, rfl, hscope⟩

/-! ### Where results come from -/

namespace Memory

section Accounts

variable (registry : Registry) (allowed : Faults → Tree → Run → Bool → Prop)
  (known : List Faults)

/-- A store accounts for a result when it has a radar and a run that the result is for. The run
is one that the radar looks at, and the verdict is allowed for some faults that there have
been. -/
def AccountsFor (m : Memory) (score : Score) : Prop :=
  ∃ radar ∈ m.radars, ∃ rule, radar.rule registry = .ok rule ∧
    ∃ run ∈ m.runs, run.project = radar.project ∧ rule.scope.holds run = true ∧
      ∃ faults ∈ known, ScoreFor radar (allowed faults rule.checks) score run

/-- The faults of a store are known, and it accounts for all of its results. -/
structure Accounted (m : Memory) : Prop where
  faults : m.faults ∈ known
  results : ∀ score ∈ m.results, m.AccountsFor registry allowed known score

end Accounts

variable {registry : Registry} {batchSize : Nat} {allowed : Faults → Tree → Run → Bool → Prop}
  {known : List Faults} {m m' : Memory} {radar : Radar} {scores : List Score}

/-- A store with more radars and runs accounts for the same results. -/
theorem AccountsFor.mono {score : Score} (h : m.AccountsFor registry allowed known score)
    (hradars : m.radars ⊆ m'.radars) (hruns : m.runs ⊆ m'.runs) :
    m'.AccountsFor registry allowed known score := by
  obtain ⟨radar, hradar, rule, hrule, run, hrun, hscope⟩ := h
  exact ⟨radar, hradars hradar, rule, hrule, run, hruns hrun, hscope⟩

/-- A store accounts for what its radars add. -/
theorem RadarAdds.accountsFor (h : RadarAdds registry batchSize allowed m radar scores)
    (hradar : radar ∈ m.radars) (hfaults : m.faults ∈ known) :
    ∀ score ∈ scores, m.AccountsFor registry allowed known score := by
  cases h with
  | nothing => exact fun _ hs => absurd hs List.not_mem_nil
  | scored hrule hscores =>
      intro score hscore
      obtain ⟨run, hrun, hfor⟩ := hscores.exists_run score hscore
      obtain ⟨hstored, hproject, -, hscope⟩ := mem_of_mem_unscored hrun
      exact ⟨radar, hradar, _, hrule, run, hstored, hproject, hscope, m.faults, hfaults, hfor⟩

theorem Grows.accounted (h : Grows registry batchSize allowed m m')
    (hm : m.Accounted registry allowed known) : m'.Accounted registry allowed known := by
  induction h with
  | refl => exact hm
  | step h hradar hscores ih =>
      refine ⟨ih.faults, fun score hscore => ?_⟩
      rcases List.mem_append.mp hscore with hold | hnew
      · exact ih.results score hold
      · exact hscores.accountsFor (h.frame.1 ▸ hradar) ih.faults score hnew

end Memory

namespace Scanner

/-- Where results come from lasts. -/
theorem lasting_accounted (registry : Registry) (batchSize : Nat)
    (allowed : Faults → Tree → Run → Bool → Prop) (known : List Faults) :
    Lasting registry batchSize allowed known (Memory.Accounted registry allowed known) where
  grows := fun _ _ _ hgrows h => hgrows.accounted h
  addRadar := fun _ _ h =>
    ⟨h.faults, fun score hs =>
      (h.results score hs).mono (List.subset_append_left _ _) (List.Subset.refl _)⟩
  addRun := fun _ _ h =>
    ⟨h.faults, fun score hs =>
      (h.results score hs).mono (List.Subset.refl _) (List.subset_append_left _ _)⟩
  setFaults := fun _ _ hf h => ⟨hf, h.results⟩

end Scanner

/-! ### Right verdicts -/

/-- An assignment that agrees with all that leaves would answer without faults agrees with what
they answer. -/
theorem Tree.Agrees.of_faultless {registry : Registry} {faults : Faults} {run : Run} {t : Tree}
    {α : Assignment} (h : t.Agrees (Leaf.answer registry {} run) α) :
    t.Agrees (Leaf.answer registry faults run) α :=
  fun place l hl o ho => h place l hl o (Leaf.answer_faultless ho)

/-- A verdict is the value of checks on a run. Leaves that fail for another reason than faults of
the store count as true or false, as one likes, and where leaves have been evaluated one by one,
so do those that fail because of faults. -/
structure Tree.ValuedAt (registry : Registry) (faults : Faults) (checks : Tree) (run : Run)
    (passed : Bool) : Prop where
  faultless : ∀ α, checks.Agrees (Leaf.answer registry {} run) α → passed = checks.value α
  faulted : checks.needsEvaluator registry = true →
    ∀ α, checks.Agrees (Leaf.answer registry faults run) α → passed = checks.value α

namespace Scanner

/-- With evaluators that are functions of run and params, both ways of scoring give the value of
the checks. -/
theorem judges_value {registry : Registry} (hsteady : registry.IsSteady) (pace : Pace)
    (rescan : Rescan Memory) : Judges registry pace rescan (Tree.ValuedAt registry) where
  each := by
    intro checks _ run m flight _
    have hleaves : ∀ l ∈ checks.leaves, Ensures (Engine.At m flight)
        ((Interpreter.overMemory registry rescan).evaluateLeaf run l)
        (· = l.answer registry m.faults run) :=
      fun l _ => Interpreter.ensures_evaluateLeaf (Leaf.isSteady_of_registry hsteady l)
    refine (Interpreter.ensures_runChecksAt hleaves).mono fun r hr c hc => ?_
    have hvalue : ∀ α, checks.Agrees (Leaf.answer registry m.faults run) α →
        c.passed = checks.value α :=
      fun α hα => Tree.checked_passed_eq_value hα (hr.symm.trans hc)
    exact ⟨fun α hα => hvalue α hα.of_faultless, fun _ => hvalue⟩
  batch := by
    intro checks p hneeds hp faults run
    -- nothing fails without faults, so there is an outcome, and it says what the condition does
    have hanswers : ∀ l ∈ checks.leaves, ∃ o, l.answer registry {} run = .ok o :=
      Tree.exists_answer_of_compile hp rfl
    obtain ⟨o, ho⟩ := Tree.exists_outcome_eq_ok hanswers
    have hpassed : o.passed = p.holds run := Tree.decides_of_compile hp rfl o ho
    refine ⟨fun α hα => hpassed.symm.trans (Tree.passed_eq_value hα o ho), fun h => ?_⟩
    rw [hneeds] at h
    cases h

/-- Along every history that starts without results, each result is for a listed radar with a
rule and for a stored run that the radar looks at, and its verdict is the value of the radar's
checks on that run. For checks that were evaluated leaf by leaf, that is so whatever truth values
are given to the leaves that failed under the faults of that moment. -/
theorem results_right (registry : Registry) (hsteady : registry.IsSteady) (batchSize : Nat)
    (pace : Pace) (e : Engine Memory) (steps : List HistoryStep) (hruns : FreshRuns e steps)
    (hresults : e.store.results = []) :
    let store := ((overMemory registry batchSize pace).after e steps).store
    ∀ score ∈ store.results,
      ∃ radar ∈ store.radars, radar.id = score.radar ∧
        ∃ run ∈ store.runs, run.id = score.run ∧ run.project = radar.project ∧
          ∃ view checks scope, radar.viewTree = .ok view ∧ radar.checksTree = .ok checks ∧
            view.compile registry = .ok scope ∧ scope.holds run = true ∧
            (∀ α, checks.Agrees (Leaf.answer registry {} run) α →
              score.passed = checks.value α) ∧
            (checks.needsEvaluator registry = true →
              ∃ faults ∈ e.store.faults :: faultsSet steps,
                ∀ α, checks.Agrees (Leaf.answer registry faults run) α →
                  score.passed = checks.value α) := by
  intro store score hscore
  have hstart : e.store.Accounted registry (Tree.ValuedAt registry)
      (e.store.faults :: faultsSet steps) :=
    ⟨List.mem_cons_self, fun _ hs => by rw [hresults] at hs; cases hs⟩
  have hend := (lasting_accounted registry batchSize _ _).after
    (fun _ => judges_value hsteady pace _) hruns (List.subset_cons_self _ _) hstart
  obtain ⟨radar, hradar, rule, hrule, run, hrun, hproject, hscope, faults, hfaults, hfor⟩ :=
    hend.results score hscore
  obtain ⟨view, hview, hchecks, hcompile⟩ := Radar.trees_of_rule hrule
  exact ⟨radar, hradar, hfor.radar_eq.symm, run, hrun, hfor.run_eq.symm, hproject,
    view, rule.checks, rule.scope, hview, hchecks, hcompile, hscope, hfor.passed.faultless,
    fun hneeds => ⟨faults, hfaults, hfor.passed.faulted hneeds⟩⟩

/-- A filter whose evaluator says yes to language models and has nothing to say about other
runs. -/
def modelFilter : Filter :=
  ⟨"model", [], .evaluator (.steady fun run params =>
    if run.kind = "llm" then .ok ⟨true, none⟩ else .error (.failed params.filter "no model"))⟩

/-- Of two runs, one gets a result. It is right, and so are all results. -/
theorem model_radar_results_right :
    let registry := Registry.ofList [modelFilter]
    let radar : Radar := ⟨.nil, .nil, none, none, (Tree.identity .and).toJson,
      (Tree.combine .and [.leafOf "model" .null, .leafOf "unknown" .null]).toJson,
      ⟨0, 0, by decide⟩, none⟩
    let run := ({} : VirtualRun).runUntil ⟨0, 0, by decide⟩ none
    let e := Engine.start { radars := [radar], runs := [run] }
    let steps := [.scan 0, .addRun { run with id := ⟨1⟩, kind := "tool" }, .scan 0]
    let store := ((overMemory registry 10 .atOnce).after e steps).store
    registry.IsSteady ∧ FreshRuns e steps ∧ e.store.results = [] ∧
      store.results.map (·.passed) = [true] ∧
      ∀ score ∈ store.results, ∃ radar ∈ store.radars, radar.id = score.radar ∧
        ∃ run ∈ store.runs, run.id = score.run ∧ ∃ checks, radar.checksTree = .ok checks ∧
          ∀ α, checks.Agrees (Leaf.answer registry {} run) α →
            score.passed = checks.value α := by
  intro registry radar run e steps store
  have hsteady : registry.IsSteady := Registry.isSteady_ofList_singleton _ _ _
  have hruns : FreshRuns e steps := by decide
  refine ⟨hsteady, hruns, rfl, by decide +kernel, fun score hscore => ?_⟩
  obtain ⟨radar, hradar, hid, run, hrun, hid', -, -, checks, -, -, hchecks, -, -, hvalue, -⟩ :=
    results_right registry hsteady 10 .atOnce e steps hruns rfl score hscore
  exact ⟨radar, hradar, hid, run, hrun, hid', checks, hchecks, hvalue⟩

end Scanner

end RunRadar
