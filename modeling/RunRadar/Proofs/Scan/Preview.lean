import RunRadar.Filter.Stored
import RunRadar.Proofs.Engine.Compilation
import RunRadar.Proofs.Scan.Correctness
import RunRadar.Proofs.Scan.Turn

/-!
# RunRadar.Proofs.Scan.Preview

**Previews**: what evaluating checks in memory tells about the result that a scan stores for a run.

A preview goes from operand to operand, and only as far as it needs to. A scan does so as well when
the checks need an evaluator. Otherwise it compiles them first, all of them, and a radar whose
checks do not compile gets no results. So a preview may have a verdict because it stops in front of
a leaf with params that its filter rejects, where the scan stores nothing. But for that, it is right
about both whether there is a result and what the result says (`Scanner.stored_iff_previewed`).
-/

namespace RunRadar

/-! ### Previews of results -/

section Previews

variable {registry : Registry} (hsteady : registry.IsSteady) {checks : Tree} {run : Run}

include hsteady

/-- A preview comes to what the answers of the leaves decide. -/
theorem evaluateChecks_eq_checked (checks : Tree) (run : Run) :
    evaluateChecks registry run checks = checks.checked (Leaf.answer registry {} run) := by
  have hensures : Action.Ensures (Engine.At Memory.empty .idle)
      ((Interpreter.inMemory registry).runChecks run checks) _ :=
    Interpreter.ensures_runChecksAt_answer hsteady checks
  exact (hensures (Engine.start .empty) ⟨rfl, rfl⟩).1

/-- A preview of checks that compile has the verdict of their condition. -/
theorem exists_evaluateChecks_of_compile (run : Run) {p : Predicate}
    (hp : checks.compile registry = .ok p) :
    ∃ c, evaluateChecks registry run checks = .ok c ∧ c.passed = p.holds run := by
  have hfaults : ({} : Faults).runMatches.contains run.id = false := rfl
  have hanswer := Tree.exists_answer_of_compile hp hfaults
  obtain ⟨o, ho⟩ := Tree.exists_outcome_eq_ok hanswer
  obtain ⟨c, hc⟩ := Tree.exists_checked_eq_ok hanswer
  refine ⟨c, (evaluateChecks_eq_checked hsteady checks run).trans hc, ?_⟩
  rw [Tree.checked_passed_eq ho hc, Tree.decides_of_compile hp hfaults o ho]

namespace Radar

variable (radar : Radar)

/-- A radar has a result for a run when the preview has a verdict, and the checks need an evaluator
or compile. -/
theorem isSome_score?_iff :
    (radar.score? registry checks run).isSome ↔
      (evaluateChecks registry run checks).isOk ∧
        (checks.needsEvaluator registry = true ∨
          ∀ l ∈ checks.leaves, (l.compile registry).isOk) := by
  cases hneeds : checks.needsEvaluator registry with
  | true =>
      have hsome : (radar.score? registry checks run).isSome = _ :=
        isSome_score?_eq hsteady hneeds (e := Engine.start .empty) rfl
      rw [hsome]
      simp only [evaluateChecks, true_or, and_true]
  | false =>
      simp only [Bool.false_eq_true, false_or]
      rw [← Tree.exists_compile_iff]
      cases hp : checks.compile registry with
      | error err => simp [score?, hneeds, hp]
      | ok p =>
          obtain ⟨c, hc, -⟩ := exists_evaluateChecks_of_compile hsteady run hp
          have hsome : (radar.score? registry checks run).isSome :=
            isSome_score?_of_compile hneeds hp
          rw [hc]
          exact iff_of_true hsome ⟨rfl, p, rfl⟩

/-- The result of a radar for a run has the verdict of the preview. -/
theorem passed_of_score? {score : Score} (h : radar.score? registry checks run = some score) :
    ∃ c, evaluateChecks registry run checks = .ok c ∧ score.passed = c.passed := by
  cases hneeds : checks.needsEvaluator registry with
  | true =>
      rw [score?, if_pos hneeds, runScore?] at h
      rw [evaluateChecks_eq_checked hsteady]
      cases hc : checks.checked (Leaf.answer registry {} run) with
      | error err => rw [hc] at h; cases h
      | ok c =>
          rw [hc] at h
          cases h
          exact ⟨c, rfl, rfl⟩
  | false =>
      cases hp : checks.compile registry with
      | error err => simp [score?, hneeds, hp] at h
      | ok p =>
          simp only [score?, hneeds, hp, Bool.false_eq_true, if_false] at h
          cases h
          obtain ⟨c, hc, hpassed⟩ := exists_evaluateChecks_of_compile hsteady run hp
          exact ⟨c, hc, hpassed.symm⟩

end Radar

end Previews

namespace Scanner

variable {registry : Registry} {batchSize : Nat} {pace : Pace} {radar : Radar} {rule : Rule}
  {run : Run}

/-- Of the results for a batch, those for one of its runs are what the radar has for that run. -/
theorem filter_run_filterMap_score? {checks : Tree} {runs : List Run}
    (hdistinct : (runs.map (·.id)).Nodup) (hrun : run ∈ runs) :
    (runs.filterMap (radar.score? registry checks)).filter (·.run = run.id) =
      (radar.score? registry checks run).toList := by
  obtain ⟨front, behind, rfl⟩ := List.append_of_mem hrun
  rw [List.map_append, List.map_cons, List.nodup_middle, List.nodup_cons] at hdistinct
  have hother : ∀ others : List Run, (∀ r ∈ others, r.id ≠ run.id) →
      (others.filterMap (radar.score? registry checks)).filter (·.run = run.id) = [] := by
    intro others hids
    refine List.filter_eq_nil_iff.mpr fun score hscore => ?_
    obtain ⟨r, hr, hsome⟩ := List.mem_filterMap.mp hscore
    simpa [(Radar.key_of_score? hsome).2] using hids r hr
  have hfront : ∀ r ∈ front, r.id ≠ run.id := fun r hr heq =>
    hdistinct.1 (List.mem_append_left _ (heq ▸ List.mem_map_of_mem hr))
  have hbehind : ∀ r ∈ behind, r.id ≠ run.id := fun r hr heq =>
    hdistinct.1 (List.mem_append_right _ (heq ▸ List.mem_map_of_mem hr))
  rw [List.filterMap_append, List.filter_append, hother front hfront, List.nil_append,
    List.filterMap_cons]
  cases hscore : radar.score? registry checks run with
  | none => exact hother behind hbehind
  | some score =>
      have hkey := (Radar.key_of_score? hscore).2
      rw [List.filter_cons_of_pos (by simpa using hkey), hother behind hbehind]
      rfl

/-- A scan leaves one result for a run that it fetches, or none, as the radar has one for it. -/
theorem filter_run_resultsFor_scan (hsteady : registry.IsSteady)
    (hrule : radar.rule registry = .ok rule) {e : Engine Memory} (he : Undisturbed e)
    (hradar : e.store.radars.filter (·.id = radar.id) = [radar])
    (hfetched : run ∈ e.store.unscored radar rule.scope batchSize) :
    (((overMemory registry batchSize pace).scan e).2.store.resultsFor radar.id).filter
        (·.run = run.id) = (radar.score? registry rule.checks run).toList := by
  obtain ⟨hresults, -⟩ := scan_turn hsteady batchSize pace he hrule hradar
  obtain ⟨-, -, hunscored, -⟩ := Memory.mem_of_mem_unscored hfetched
  -- the radar had no result for the run
  have hold : (e.store.resultsFor radar.id).filter (·.run = run.id) = [] := by
    rw [Memory.isScored_eq_any, List.any_eq_false] at hunscored
    exact List.filter_eq_nil_iff.mpr hunscored
  rw [hresults, List.filter_append, hold, List.nil_append, ← Memory.unscored_eq_take]
  exact filter_run_filterMap_score? (Memory.nodup_unscored he.distinct) hfetched

/-- A scan leaves a result for a run that it fetches exactly when a preview of the checks has a
verdict, unless the checks need no evaluator and one of their leaves does not compile, wherever it
stands: then there is no result. There is at most one result, and it has the verdict of the
preview. -/
theorem stored_iff_previewed (registry : Registry) (hsteady : registry.IsSteady)
    (batchSize : Nat) (pace : Pace) (radar : Radar) (rule : Rule)
    (hrule : radar.rule registry = .ok rule) (e : Engine Memory) (he : Undisturbed e)
    (hradar : e.store.radars.filter (·.id = radar.id) = [radar]) (run : Run)
    (hfetched : run ∈ e.store.unscored radar rule.scope batchSize) :
    let preview := evaluateChecks registry run rule.checks
    let stored := (((overMemory registry batchSize pace).scan e).2.store.resultsFor radar.id).filter
      (·.run = run.id)
    (stored ≠ [] ↔ preview.isOk ∧ (rule.checks.needsEvaluator registry = true ∨
        ∀ l ∈ rule.checks.leaves, (l.compile registry).isOk)) ∧
      stored.length ≤ 1 ∧
      ∀ score ∈ stored, ∃ c, preview = .ok c ∧ score.passed = c.passed := by
  intro preview stored
  have hstored : stored = (radar.score? registry rule.checks run).toList :=
    filter_run_resultsFor_scan hsteady hrule he hradar hfetched
  rw [hstored, ← radar.isSome_score?_iff hsteady]
  cases hscore : radar.score? registry rule.checks run with
  | none => simp
  | some score =>
      refine ⟨by simp, by simp, fun score' hscore' => ?_⟩
      obtain rfl := List.mem_singleton.mp hscore'
      exact radar.passed_of_score? hsteady hscore

/-- A scan stores what a preview of the same checks has found: the run passes at its model, which
an evaluator decides, and the leaf behind it is not looked at. -/
theorem stored_iff_previewed_model :
    let registry := Registry.ofList [modelFilter]
    let checks := Tree.combine .or [.leafOf "model" .null, .leafOf "unknown" .null]
    let radar : Radar := ⟨.nil, .nil, none, none, (Tree.identity .and).toJson, checks.toJson,
      ⟨0, 0, by decide⟩, none⟩
    let run := ({} : VirtualRun).runUntil ⟨0, 0, by decide⟩ none
    let e := Engine.start { radars := [radar], runs := [run] }
    let stored := (((overMemory registry 1 .atOnce).scan e).2.store.resultsFor radar.id).filter
      (·.run = run.id)
    registry.IsSteady ∧ radar.rule registry = .ok ⟨.always, checks⟩ ∧ Undisturbed e ∧
      e.store.radars.filter (·.id = radar.id) = [radar] ∧ e.store.unscored radar .always 1 = [run] ∧
      (evaluateChecks registry run checks).isOk ∧ stored.length = 1 ∧
      ∀ score ∈ stored, ∃ c, evaluateChecks registry run checks = .ok c ∧
        score.passed = c.passed := by
  intro registry checks radar run e stored
  have hsteady : registry.IsSteady := Registry.isSteady_ofList_singleton _ _ _
  have hrule : radar.rule registry = .ok ⟨.always, checks⟩ := by rfl
  have he : Undisturbed e := ⟨rfl, rfl, by decide⟩
  have hradar : e.store.radars.filter (·.id = radar.id) = [radar] := by rfl
  have hfetched : e.store.unscored radar .always 1 = [run] := by decide +kernel
  have hpreview : (evaluateChecks registry run checks).isOk := by rfl
  obtain ⟨hstored, hone, hpassed⟩ := stored_iff_previewed registry hsteady 1 .atOnce radar _ hrule
    e he hradar run (hfetched ▸ List.mem_singleton_self run)
  have hsome : stored ≠ [] := hstored.mpr ⟨hpreview, .inl (by decide)⟩
  exact ⟨hsteady, hrule, he, hradar, hfetched, hpreview,
    Nat.le_antisymm hone (List.length_pos_iff.mpr hsome), hpassed⟩

/-- A preview passes at a leaf that is not registered, and the scan stores nothing, for it compiles
the leaf behind it as well, whose params are rejected. -/
theorem previewed_and_not_stored :
    let registry := Registry.ofList Filter.Stored.filters
    let checks := Tree.combine .or [.leafOf "unknown" .null, .leafOf "duration" .null]
    let radar : Radar := ⟨.nil, .nil, none, none, (Tree.identity .and).toJson, checks.toJson,
      ⟨0, 0, by decide⟩, none⟩
    let run := ({} : VirtualRun).runUntil ⟨0, 0, by decide⟩ none
    let e := Engine.start { radars := [radar], runs := [run] }
    registry.IsSteady ∧ radar.rule registry = .ok ⟨.always, checks⟩ ∧ Undisturbed e ∧
      e.store.unscored radar .always 1 = [run] ∧
      (evaluateChecks registry run checks).isOk ∧
      ((overMemory registry 1 .atOnce).scan e).2.store.results = [] := by
  intro registry checks radar run e
  have hnone : registry.filters.all (·.evaluator?.isNone) = true := by decide
  have hsteady : registry.IsSteady := by
    intro filter hfilter evaluate hevaluate
    have hno := List.all_eq_true.mp hnone filter hfilter
    rw [hevaluate] at hno
    cases hno
  have hrule : radar.rule registry = .ok ⟨.always, checks⟩ := by rfl
  exact ⟨hsteady, hrule, ⟨rfl, rfl, by decide⟩, by decide +kernel, by rfl, by decide +kernel⟩

end Scanner

end RunRadar
