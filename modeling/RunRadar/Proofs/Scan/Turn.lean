import RunRadar.Proofs.Scan.History
import RunRadar.Proofs.Scan.Isolation
import RunRadar.Proofs.Store.Backlog

/-!
# RunRadar.Proofs.Scan.Turn

A radar's **turn** in a pass in which no request fails. The radar takes a batch from the front of
its backlog and leaves a result for each run of it that its checks have a verdict on, whichever of
the two ways of scoring they take (`Radar.score?`). So the other runs of the batch stay where they
are, in front of all that was not in the batch (`Memory.backlog_turn`).

What a radar finds when its turn comes is what there was at the start of the pass, as long as no
other radar has its identifier (`Scanner.scan_turn`).
-/

namespace RunRadar

/-! ### Results for runs -/

section Results

variable {registry : Registry} {radar : Radar} {checks : Tree} {run : Run}

/-- The result of a radar for a run, when no request fails. -/
def Radar.score? (registry : Registry) (radar : Radar) (checks : Tree) (run : Run) :
    Option Score :=
  if checks.needsEvaluator registry then radar.runScore? registry {} checks run
  else
    match checks.compile registry with
    | .error _ => none
    | .ok p => some ⟨radar.id, run.id, p.holds run, []⟩

/-- The result of a radar for a run is for this radar and this run. -/
theorem Radar.key_of_score? {score : Score} (h : radar.score? registry checks run = some score) :
    score.radar = radar.id ∧ score.run = run.id := by
  unfold score? at h
  split at h
  · unfold runScore? at h
    split at h
    · cases h
    · cases h
      exact ⟨rfl, rfl⟩
  · split at h
    · cases h
    · cases h
      exact ⟨rfl, rfl⟩

/-- Checks that compile have a verdict on every run. -/
theorem Radar.isSome_score?_of_compile (hneeds : checks.needsEvaluator registry = false)
    {p : Predicate} (hp : checks.compile registry = .ok p) :
    (radar.score? registry checks run).isSome := by
  simp only [score?, hneeds, hp, Bool.false_eq_true, if_false, Option.isSome_some]

/-- Checks that need an evaluator have a verdict on the runs on which evaluating them gives
one. -/
theorem Radar.isSome_score?_eq (hsteady : registry.IsSteady)
    (hneeds : checks.needsEvaluator registry = true) {e : Engine Memory}
    (hfaults : e.store.faults = {}) :
    (radar.score? registry checks run).isSome =
      ((Interpreter.inMemory registry).runChecks run checks e).1.isOk := by
  have hensures : Action.Ensures (Engine.At e.store e.flight)
      ((Interpreter.inMemory registry).runChecks run checks) _ :=
    Interpreter.ensures_runChecksAt_answer hsteady checks
  rw [(hensures e ⟨rfl, rfl⟩).1, hfaults, score?, if_pos hneeds, runScore?]
  cases checks.checked (Leaf.answer registry {} run) <;> rfl

/-- Without faults, every result can be stored. -/
@[simp] theorem Faults.storable_none (scores : List Score) :
    Faults.storable {} scores = scores := by
  simp [storable]

end Results

namespace Memory

variable {registry : Registry} {batchSize : Nat} {m : Memory} {radar : Radar} {rule : Rule}
  {checks : Tree} {runs : List Run} {run : Run}

/-- Both ways of scoring give each run its result. -/
theorem verdicts_eq_filterMap (hfaults : m.faults = {}) (hdistinct : m.DistinctRuns)
    (hruns : ∀ run ∈ runs, run ∈ m.runs) :
    m.verdicts registry radar checks runs = runs.filterMap (radar.score? registry checks) := by
  unfold verdicts
  split
  · next hneeds =>
      rw [hfaults]
      refine List.filterMap_congr fun run _ => ?_
      rw [Radar.score?, if_pos hneeds]
  · next hneeds =>
      cases hp : checks.compile registry with
      | error err =>
          refine (List.filterMap_eq_nil_iff.mpr fun run _ => ?_).symm
          simp only [Radar.score?, if_neg hneeds, hp]
      | ok p =>
          simp only [hfaults, Bool.false_eq_true, if_false]
          refine (List.filterMap_eq_map_iff_forall_eq_some.mpr fun run hrun => ?_).symm
          simp only [Radar.score?, if_neg hneeds, hp, Radar.batchScore,
            contains_matchingIds hdistinct (hruns run hrun) (List.mem_map_of_mem hrun)]

/-- On its turn, a radar adds the results that it has for the front of its backlog. -/
theorem additions_eq_filterMap (hfaults : m.faults = {}) (hdistinct : m.DistinctRuns)
    (hrule : radar.rule registry = .ok rule) :
    m.additions registry batchSize radar =
      ((m.backlog radar rule.scope).take batchSize).filterMap
        (radar.score? registry rule.checks) := by
  have hstored : ∀ run ∈ (m.backlog radar rule.scope).take batchSize, run ∈ m.runs :=
    fun run hrun => mem_runs_of_mem_backlog (List.mem_of_mem_take hrun)
  simp only [additions, hrule, hfaults, unscored_eq_take, Faults.storable_none]
  rw [verdicts_eq_filterMap hfaults hdistinct hstored]
  rfl

section Turn

variable (hfaults : m.faults = {}) (hdistinct : m.DistinctRuns)
  (hrule : radar.rule registry = .ok rule)

include hfaults hdistinct hrule

/-- On its turn, a radar scores the runs of its batch that it has a result for. -/
theorem isScored_turn (batchSize : Nat) (hrun : run ∈ m.backlog radar rule.scope) :
    (m.addScores (m.additions registry batchSize radar)).isScored radar.id run.id = true ↔
      run ∈ (m.backlog radar rule.scope).take batchSize ∧
        (radar.score? registry rule.checks run).isSome := by
  have hold := isScored_of_mem_backlog hrun
  rw [additions_eq_filterMap hfaults hdistinct hrule, isScored, results_addScores,
    List.any_append, ← isScored, hold, Bool.false_or, List.any_eq_true]
  constructor
  · rintro ⟨score, hscore, hkey⟩
    obtain ⟨other, hother, hsome⟩ := List.mem_filterMap.mp hscore
    have hid : other.id = run.id := by
      rw [← (Radar.key_of_score? hsome).2]
      simpa using (Bool.and_eq_true_iff.mp hkey).2
    -- runs differ in their identifiers, so the result is for this run
    obtain rfl := hdistinct.eq_of_id_eq
      (mem_runs_of_mem_backlog (List.mem_of_mem_take hother)) (mem_runs_of_mem_backlog hrun) hid
    exact ⟨hother, by simp [hsome]⟩
  · rintro ⟨hbatch, hsome⟩
    obtain ⟨score, hscore⟩ := Option.isSome_iff_exists.mp hsome
    obtain ⟨hradar, hid⟩ := Radar.key_of_score? hscore
    exact ⟨score, List.mem_filterMap.mpr ⟨run, hbatch, hscore⟩, by simp [hradar, hid]⟩

/-- A turn leaves, of the batch, the runs without a verdict, and all that was behind the batch. -/
theorem backlog_turn :
    (m.addScores (m.additions registry batchSize radar)).backlog radar rule.scope =
      ((m.backlog radar rule.scope).take batchSize).filter
          (fun run => (radar.score? registry rule.checks run).isNone) ++
        (m.backlog radar rule.scope).drop batchSize := by
  have hscored : ∀ run ∈ m.backlog radar rule.scope, _ :=
    fun run => isScored_turn hfaults hdistinct hrule batchSize
  have hnodup : (m.backlog radar rule.scope).Nodup := (nodup_backlog hdistinct).of_map _
  have hruns : (m.addScores (m.additions registry batchSize radar)).runs = m.runs := rfl
  rw [backlog_of_results_subset hruns (List.subset_append_left _ _)]
  conv_lhs => rw [← List.take_append_drop batchSize (m.backlog radar rule.scope)]
  rw [List.filter_append]
  congr 1
  · refine List.filter_congr fun run hrun => ?_
    have hiff := hscored run (List.mem_of_mem_take hrun)
    rw [and_iff_right hrun] at hiff
    rw [Bool.eq_iff_iff, Bool.not_eq_true', ← Bool.not_eq_true, hiff, Option.isNone_iff_eq_none,
      Option.not_isSome_iff_eq_none]
  · refine List.filter_eq_self.mpr fun run hrun => ?_
    have hbehind : run ∉ (m.backlog radar rule.scope).take batchSize :=
      fun h => List.disjoint_take_drop hnodup (Nat.le_refl batchSize) h hrun
    rw [Bool.not_eq_true', ← Bool.not_eq_true, hscored run (List.mem_of_mem_drop hrun)]
    exact fun h => hbehind h.1

end Turn

/-! ### Passes -/

/-- Radars stay listed. -/
theorem radars_scanned (registry : Registry) (batchSize : Nat) (m : Memory)
    (radars : List Radar) : (m.scanned registry batchSize radars).radars = m.radars := by
  induction radars generalizing m with
  | nil => rfl
  | cons radar radars ih => exact ih _

/-- Results are only added. -/
theorem results_prefix_scanned (registry : Registry) (batchSize : Nat) (m : Memory)
    (radars : List Radar) : m.results <+: (m.scanned registry batchSize radars).results := by
  induction radars generalizing m with
  | nil => exact List.prefix_refl _
  | cons radar radars ih =>
      exact (List.prefix_append m.results _).trans
        (ih (m.addScores (m.additions registry batchSize radar)))

end Memory

namespace Scanner

/-- No pass is in progress, no request fails, and runs are known by their identifiers. -/
structure Undisturbed (e : Engine Memory) : Prop where
  idle : e.flight = .idle
  faults : e.store.faults = {}
  distinct : e.store.DistinctRuns

/-- The engine after so many scans in a row. -/
def afterScans (scanner : Scanner Memory) (e : Engine Memory) (k : Nat) : Engine Memory :=
  scanner.after e (List.replicate k (.scan 0))

@[simp] theorem afterScans_zero (scanner : Scanner Memory) (e : Engine Memory) :
    scanner.afterScans e 0 = e := rfl

theorem afterScans_succ (scanner : Scanner Memory) (e : Engine Memory) (k : Nat) :
    scanner.afterScans e (k + 1) = scanner.afterScans (scanner.scan e).2 k := rfl

variable {registry : Registry} (hsteady : registry.IsSteady) (batchSize : Nat) (pace : Pace)
  {e : Engine Memory}

include hsteady

/-- A scan is a pass over the listed radars. -/
theorem store_scan (he : Undisturbed e) :
    ((overMemory registry batchSize pace).scan e).2.store =
      e.store.scanned registry batchSize e.store.radars :=
  (scanTo_at hsteady 0 he.idle (by rw [he.faults])).2.store

/-- Scans leave an engine undisturbed. -/
theorem Undisturbed.scan (he : Undisturbed e) :
    Undisturbed ((overMemory registry batchSize pace).scan e).2 := by
  obtain ⟨hruns, hfaults⟩ :=
    Memory.scanned_frame registry batchSize e.store e.store.radars
  refine ⟨(scanTo_at hsteady 0 he.idle (by rw [he.faults])).2.flight, ?_, ?_⟩
  · rw [store_scan hsteady batchSize pace he, hfaults, he.faults]
  · rw [store_scan hsteady batchSize pace he, Memory.DistinctRuns, hruns]
    exact he.distinct

/-- The radars that are listed stay so. -/
theorem radars_scan (he : Undisturbed e) :
    ((overMemory registry batchSize pace).scan e).2.store.radars = e.store.radars := by
  rw [store_scan hsteady batchSize pace he, Memory.radars_scanned]

/-- Results are only added. -/
theorem results_subset_scan (he : Undisturbed e) :
    e.store.results ⊆ ((overMemory registry batchSize pace).scan e).2.store.results := by
  rw [store_scan hsteady batchSize pace he]
  exact (Memory.results_prefix_scanned registry batchSize _ _).subset

/-- A scan takes the runs that it scores from a backlog. -/
theorem backlog_scan (he : Undisturbed e) (radar : Radar) (scope : Predicate) :
    ((overMemory registry batchSize pace).scan e).2.store.backlog radar scope =
      (e.store.backlog radar scope).filter fun run =>
        !((overMemory registry batchSize pace).scan e).2.store.isScored radar.id run.id := by
  refine Memory.backlog_of_results_subset ?_ (results_subset_scan hsteady batchSize pace he)
  rw [store_scan hsteady batchSize pace he, (Memory.scanned_frame registry batchSize _ _).1]

/-- A scan gives a radar its turn: results for the front of its backlog, and a backlog without the
runs that they are for. -/
theorem scan_turn (he : Undisturbed e) {radar : Radar} {rule : Rule}
    (hrule : radar.rule registry = .ok rule)
    (hradar : e.store.radars.filter (·.id = radar.id) = [radar]) :
    let store := ((overMemory registry batchSize pace).scan e).2.store
    let backlog := e.store.backlog radar rule.scope
    store.resultsFor radar.id = e.store.resultsFor radar.id ++
        (backlog.take batchSize).filterMap (radar.score? registry rule.checks) ∧
      store.backlog radar rule.scope =
        (backlog.take batchSize).filter
            (fun run => (radar.score? registry rule.checks run).isNone) ++
          backlog.drop batchSize := by
  intro store backlog
  have hstore : store = e.store.scanned registry batchSize e.store.radars :=
    store_scan hsteady batchSize pace he
  have hrows : store.resultsFor radar.id =
      e.store.resultsFor radar.id ++ e.store.additions registry batchSize radar := by
    rw [hstore, Memory.resultsFor_scanned registry batchSize _ hradar]
  constructor
  · rw [hrows, Memory.additions_eq_filterMap he.faults he.distinct hrule]
  · -- the radar's turn alone leaves the same results of the radar, and so the same backlog
    rw [← Memory.backlog_turn he.faults he.distinct hrule]
    refine Memory.backlog_congr ?_ fun run => ?_
    · rw [hstore, (Memory.scanned_frame registry batchSize _ _).1, Memory.runs_addScores]
    · rw [Memory.isScored_eq_any, hrows, ← Memory.resultsFor_additions, ← Memory.isScored_eq_any]

end Scanner

end RunRadar
