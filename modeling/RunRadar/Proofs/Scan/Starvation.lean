import RunRadar.Proofs.Scan.Correctness
import RunRadar.Proofs.Scan.Turn

/-!
# RunRadar.Proofs.Scan.Starvation

Runs that fail **take up room**. A run on which checks have no verdict stays in the backlog and is
fetched again by every pass, oldest first, so it takes one place of every batch. What it keeps from
being scored is a question of how many such runs there are in front:

* with fewer of them than a batch has places, each pass scores a run in front of the one that is
  waiting, or that run itself (`Scanner.isScored_afterScans_of_few`);
* with as many of them as a batch has places, the batches are never about anything else
  (`Scanner.isScored_afterScans_of_many`).
-/

namespace RunRadar

namespace Memory

variable {registry : Registry} {batchSize : Nat} {m : Memory} {radar : Radar} {rule : Rule}
  {before behind : List Run} {run : Run}

/-- With fewer runs without a verdict in front than a batch has places, a turn scores a run in
front or the run itself. -/
theorem exists_isScored_turn (hfaults : m.faults = {}) (hdistinct : m.DistinctRuns)
    (hrule : radar.rule registry = .ok rule)
    (hbacklog : m.backlog radar rule.scope = before ++ run :: behind)
    (hrun : (radar.score? registry rule.checks run).isSome)
    (hfew : before.countP (fun r => (radar.score? registry rule.checks r).isNone) < batchSize) :
    ∃ r ∈ before ++ [run],
      (m.addScores (m.additions registry batchSize radar)).isScored radar.id r.id = true := by
  have hturn : ∀ r ∈ before ++ run :: behind, _ := fun r hr =>
    isScored_turn hfaults hdistinct hrule batchSize (hbacklog ▸ hr)
  rw [hbacklog] at hturn
  by_cases hlength : before.length < batchSize
  · -- the run is in the batch
    have hbatch : run ∈ (before ++ run :: behind).take batchSize := by
      obtain ⟨n, rfl⟩ := Nat.exists_eq_add_of_lt hlength
      rw [Nat.add_assoc, List.take_length_add_append, List.take_succ_cons]
      simp
    exact ⟨run, by simp, (hturn run (by simp)).mpr ⟨hbatch, hrun⟩⟩
  · -- the batch is full of runs in front, and not all of them are without a verdict
    have hbatch : (before ++ run :: behind).take batchSize = before.take batchSize :=
      List.take_append_of_le_length (Nat.le_of_not_lt hlength)
    have hexists : ∃ r ∈ before.take batchSize,
        (radar.score? registry rule.checks r).isSome := by
      by_contra hnone
      have hall : (before.take batchSize).countP
          (fun r => (radar.score? registry rule.checks r).isNone) = batchSize := by
        rw [List.countP_eq_length.mpr, List.length_take_of_le (Nat.le_of_not_lt hlength)]
        intro r hr
        rw [Option.isNone_iff_eq_none, ← Option.not_isSome_iff_eq_none]
        exact fun h => hnone ⟨r, hr, h⟩
      have hle := (List.take_sublist batchSize before).countP_le
        (p := fun r => (radar.score? registry rule.checks r).isNone)
      omega
    obtain ⟨r, hr, hsome⟩ := hexists
    have hmem := List.mem_of_mem_take hr
    exact ⟨r, List.mem_append_left _ hmem,
      (hturn r (List.mem_append_left _ hmem)).mpr ⟨hbatch ▸ hr, hsome⟩⟩

/-- In a pass, a listed radar has its turn, after some results were added and before others
are. -/
theorem exists_turn (registry : Registry) (batchSize : Nat) (m : Memory) {radars : List Radar}
    (hradar : radar ∈ radars) :
    ∃ m' : Memory, m'.runs = m.runs ∧ m'.faults = m.faults ∧ m.results ⊆ m'.results ∧
      (m'.addScores (m'.additions registry batchSize radar)).results ⊆
        (m.scanned registry batchSize radars).results := by
  obtain ⟨front, back, rfl⟩ := List.append_of_mem hradar
  obtain ⟨hruns, hfaults⟩ := scanned_frame registry batchSize m front
  refine ⟨m.scanned registry batchSize front, hruns, hfaults,
    (results_prefix_scanned registry batchSize m front).subset, ?_⟩
  rw [scanned, scanned, List.foldl_append]
  exact (results_prefix_scanned registry batchSize _ back).subset

end Memory

namespace Scanner

variable {registry : Registry} (hsteady : registry.IsSteady) {batchSize : Nat} {pace : Pace}
  {radar : Radar} {rule : Rule} (hrule : radar.rule registry = .ok rule) {e : Engine Memory}
  {before behind : List Run} {run : Run}

include hsteady

/-- A scan keeps what is scored. -/
theorem isScored_scan (he : Undisturbed e) {id : Uuid}
    (h : e.store.isScored radar.id id = true) :
    ((overMemory registry batchSize pace).scan e).2.store.isScored radar.id id = true :=
  Memory.isScored_mono (results_subset_scan hsteady batchSize pace he) h

/-- Further scans keep what is scored. -/
theorem isScored_afterScans (k : Nat) (he : Undisturbed e) {id : Uuid}
    (h : e.store.isScored radar.id id = true) :
    ((overMemory registry batchSize pace).afterScans e k).store.isScored radar.id id = true := by
  induction k generalizing e with
  | zero => exact h
  | succ k ih => exact ih (he.scan hsteady batchSize pace) (isScored_scan hsteady he h)

include hrule

/-- With few runs without a verdict in front, a scan scores a run in front or the run itself. -/
theorem exists_isScored_scan (he : Undisturbed e) (hradar : radar ∈ e.store.radars)
    (hbacklog : e.store.backlog radar rule.scope = before ++ run :: behind)
    (hrun : (radar.score? registry rule.checks run).isSome)
    (hfew : before.countP (fun r => (radar.score? registry rule.checks r).isNone) < batchSize) :
    ∃ r ∈ before ++ [run],
      ((overMemory registry batchSize pace).scan e).2.store.isScored radar.id r.id = true := by
  obtain ⟨m, hruns, hfaults, hold, hnew⟩ :=
    Memory.exists_turn registry batchSize e.store hradar
  rw [store_scan hsteady batchSize pace he]
  -- a radar with the same identifier may have scored the run before this radar's turn
  by_cases hscored : m.isScored radar.id run.id = true
  · refine ⟨run, by simp, Memory.isScored_mono (fun score hs => hnew ?_) hscored⟩
    exact List.mem_append_left _ hs
  · have hturn : m.backlog radar rule.scope =
        before.filter (fun r => !m.isScored radar.id r.id) ++
          run :: behind.filter (fun r => !m.isScored radar.id r.id) := by
      rw [Memory.backlog_of_results_subset hruns hold, hbacklog, List.filter_append,
        List.filter_cons_of_pos (by simpa using hscored)]
    have hdistinct : m.DistinctRuns := by
      rw [Memory.DistinctRuns, hruns]
      exact he.distinct
    obtain ⟨r, hr, hscored'⟩ := Memory.exists_isScored_turn (hfaults.trans he.faults) hdistinct
      hrule hturn hrun (Nat.lt_of_le_of_lt List.filter_sublist.countP_le hfew)
    refine ⟨r, ?_, Memory.isScored_mono hnew hscored'⟩
    rcases List.mem_append.mp hr with hfront | hself
    · exact List.mem_append_left _ (List.mem_of_mem_filter hfront)
    · exact List.mem_append_right _ hself

/-- With few runs without a verdict in front, a run is scored once there have been more scans than
there are runs in front. -/
theorem isScored_afterScans_of_few (k : Nat) (he : Undisturbed e)
    (hradar : radar ∈ e.store.radars)
    (hbacklog : e.store.backlog radar rule.scope = before ++ run :: behind)
    (hrun : (radar.score? registry rule.checks run).isSome)
    (hfew : before.countP (fun r => (radar.score? registry rule.checks r).isNone) < batchSize)
    (hk : before.length < k) :
    ((overMemory registry batchSize pace).afterScans e k).store.isScored radar.id run.id =
      true := by
  induction k generalizing e before behind with
  | zero => exact absurd hk (Nat.not_lt_zero _)
  | succ k ih =>
      have he' := he.scan hsteady batchSize pace
      rw [afterScans_succ]
      by_cases hscored :
          ((overMemory registry batchSize pace).scan e).2.store.isScored radar.id run.id = true
      · exact isScored_afterScans hsteady k he' hscored
      · -- another run in front was scored, so there are fewer of them now
        obtain ⟨r, hr, hr'⟩ := exists_isScored_scan hsteady hrule he hradar hbacklog hrun hfew
        have hfront : r ∈ before := by
          rcases List.mem_append.mp hr with h | h
          · exact h
          · obtain rfl := List.mem_singleton.mp h
            exact absurd hr' hscored
        have hbacklog' := backlog_scan hsteady batchSize pace he radar rule.scope
        rw [hbacklog, List.filter_append, List.filter_cons_of_pos (by simpa using hscored)]
          at hbacklog'
        refine ih he' (by rwa [radars_scan hsteady batchSize pace he]) hbacklog'
          (Nat.lt_of_le_of_lt List.filter_sublist.countP_le hfew) ?_
        have hfewer := List.length_filter_lt_length_iff_exists
          (p := fun r =>
            !((overMemory registry batchSize pace).scan e).2.store.isScored radar.id r.id)
          |>.mpr ⟨r, hfront, by simpa using hr'⟩
        omega

/-- With as many runs without a verdict in front as a batch has places, a run is never scored. -/
theorem isScored_afterScans_of_many (k : Nat) (he : Undisturbed e)
    (hradar : e.store.radars.filter (·.id = radar.id) = [radar])
    (hbacklog : e.store.backlog radar rule.scope = before ++ run :: behind)
    (hmany :
      batchSize ≤ before.countP (fun r => (radar.score? registry rule.checks r).isNone)) :
    ((overMemory registry batchSize pace).afterScans e k).store.isScored radar.id run.id =
      false := by
  induction k generalizing e before with
  | zero =>
      have hmem : run ∈ e.store.backlog radar rule.scope := by simp [hbacklog]
      exact Memory.isScored_of_mem_backlog hmem
  | succ k ih =>
      have hlength : batchSize ≤ before.length := Nat.le_trans hmany List.countP_le_length
      obtain ⟨-, hleft⟩ := scan_turn hsteady batchSize pace he hrule hradar
      -- the batch is taken from the runs in front, and gives all those without a verdict back
      rw [hbacklog, List.take_append_of_le_length hlength, List.drop_append_of_le_length hlength,
        ← List.append_assoc] at hleft
      have hradar' := (radars_scan hsteady batchSize pace he).symm ▸ hradar
      refine ih (he.scan hsteady batchSize pace) hradar' hleft ?_
      rw [List.countP_append, List.countP_filter]
      simp only [Bool.and_self]
      rwa [← List.countP_append, List.take_append_drop]

omit hsteady hrule

/-- After as many passes as a radar's backlog has runs, each run of it that its checks have a
verdict on has a result, if the checks fail on fewer runs in front of it than a batch has places.
No more can be said: behind as many failing runs as a batch has places, a run has no result after
any number of passes, unless another radar with the same identifier gives it one. -/
theorem scored_when_few_fail_before (registry : Registry) (hsteady : registry.IsSteady)
    (batchSize : Nat) (pace : Pace) (radar : Radar) (rule : Rule)
    (hrule : radar.rule registry = .ok rule)
    (hneeds : rule.checks.needsEvaluator registry = true) (e : Engine Memory)
    (he : Undisturbed e) (hradar : radar ∈ e.store.radars) (before behind : List Run) (run : Run)
    (hbacklog : e.store.backlog radar rule.scope = before ++ run :: behind) :
    let failing := before.countP fun r =>
      !((Interpreter.inMemory registry).runChecks r rule.checks e).1.isOk
    let scoredAfter k :=
      ((overMemory registry batchSize pace).afterScans e k).store.isScored radar.id run.id
    (((Interpreter.inMemory registry).runChecks run rule.checks e).1.isOk → failing < batchSize →
        ∀ k, (e.store.eligible radar rule.scope).length ≤ k → scoredAfter k = true) ∧
      (batchSize ≤ failing → e.store.radars.filter (·.id = radar.id) = [radar] →
        ∀ k, scoredAfter k = false) := by
  intro failing scoredAfter
  have hsome : ∀ r, (radar.score? registry rule.checks r).isSome = _ :=
    fun r => Radar.isSome_score?_eq hsteady hneeds he.faults
  have hfailing : failing =
      before.countP (fun r => (radar.score? registry rule.checks r).isNone) :=
    List.countP_congr fun r _ => by rw [← hsome, Option.not_isSome]
  have hlength : (e.store.eligible radar rule.scope).length = (before ++ run :: behind).length := by
    rw [← hbacklog]
    exact (List.length_mergeSort _).symm
  constructor
  · intro hrun hfew k hk
    refine isScored_afterScans_of_few hsteady hrule k he hradar hbacklog ((hsome run).trans hrun)
      (hfailing ▸ hfew) ?_
    rw [hlength, List.length_append, List.length_cons] at hk
    omega
  · intro hmany hunique k
    exact isScored_afterScans_of_many hsteady hrule k he hunique hbacklog (hfailing ▸ hmany)

/-- Behind a run that is fetched and fails again and again, a run gets its result when batches
have two places, and none when they have one. -/
theorem scored_when_batch_has_room :
    let registry := Registry.ofList [modelFilter]
    let radar : Radar := ⟨.nil, .nil, none, none, (Tree.identity .and).toJson,
      (Tree.leafOf "model" .null).toJson, ⟨0, 0, by decide⟩, none⟩
    let run := ({} : VirtualRun).runUntil ⟨0, 0, by decide⟩ none
    let tool := { run with id := ⟨1⟩, kind := "tool" }
    let e := Engine.start { radars := [radar], runs := [tool, run] }
    let rule : Rule := ⟨.always, Tree.leafOf "model" .null⟩
    registry.IsSteady ∧ radar.rule registry = .ok rule ∧
      rule.checks.needsEvaluator registry = true ∧ Undisturbed e ∧ radar ∈ e.store.radars ∧
      e.store.backlog radar rule.scope = [tool, run] ∧
      ((Interpreter.inMemory registry).runChecks run rule.checks e).1.isOk ∧
      ((overMemory registry 2 .atOnce).afterScans e 2).store.isScored radar.id run.id = true ∧
      ∀ k, ((overMemory registry 1 .atOnce).afterScans e k).store.isScored radar.id run.id =
        false := by
  intro registry radar run tool e rule
  have hsteady : registry.IsSteady := Registry.isSteady_ofList_singleton _ _ _
  have hrule : radar.rule registry = .ok rule := by rfl
  have hneeds : rule.checks.needsEvaluator registry = true := by decide
  have he : Undisturbed e := ⟨rfl, rfl, by decide⟩
  have hradar : radar ∈ e.store.radars := List.mem_singleton_self radar
  have hbacklog : e.store.backlog radar rule.scope = [tool] ++ run :: [] :=
    List.mergeSort_of_pairwise (by decide)
  have hrun : ((Interpreter.inMemory registry).runChecks run rule.checks e).1.isOk := by rfl
  have hscored := fun batchSize => scored_when_few_fail_before registry hsteady batchSize .atOnce
    radar rule hrule hneeds e he hradar [tool] [] run hbacklog
  exact ⟨hsteady, hrule, hneeds, he, hradar, hbacklog, hrun,
    (hscored 2).1 hrun (by decide) 2 (by decide), (hscored 1).2 (by decide) (by decide)⟩

/-- One failing run keeps another one from being scored: with batches of one run, two passes are
not enough for two runs, of which the second one has a verdict. -/
theorem failing_run_starves_another :
    let registry := Registry.ofList [modelFilter]
    let radar : Radar := ⟨.nil, .nil, none, none, (Tree.identity .and).toJson,
      (Tree.leafOf "model" .null).toJson, ⟨0, 0, by decide⟩, none⟩
    let run := ({} : VirtualRun).runUntil ⟨0, 0, by decide⟩ none
    let tool := { run with id := ⟨1⟩, kind := "tool" }
    let e := Engine.start { radars := [radar], runs := [tool, run] }
    let rule : Rule := ⟨.always, Tree.leafOf "model" .null⟩
    registry.IsSteady ∧ Undisturbed e ∧ radar ∈ e.store.radars ∧
      radar.rule registry = .ok rule ∧ rule.checks.needsEvaluator registry = true ∧
      e.store.eligible radar rule.scope = [tool, run] ∧
      ((Interpreter.inMemory registry).runChecks run rule.checks e).1.isOk ∧
      ((overMemory registry 1 .atOnce).afterScans e 2).store.isScored radar.id run.id = false := by
  intro registry radar run tool e rule
  have hsteady : registry.IsSteady := Registry.isSteady_ofList_singleton _ _ _
  have hrule : radar.rule registry = .ok rule := by rfl
  have he : Undisturbed e := ⟨rfl, rfl, by decide⟩
  have hbacklog : e.store.backlog radar rule.scope = [tool] ++ run :: [] :=
    List.mergeSort_of_pairwise (by decide)
  refine ⟨hsteady, he, List.mem_singleton_self radar, hrule, by decide, by decide, by rfl, ?_⟩
  exact isScored_afterScans_of_many hsteady hrule 2 he (by decide) hbacklog (by decide)

end Scanner

end RunRadar
