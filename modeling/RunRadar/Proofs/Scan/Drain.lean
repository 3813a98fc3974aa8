import RunRadar.Proofs.Scan.Turn

/-!
# RunRadar.Proofs.Scan.Drain

A backlog **drains oldest first**. When a radar's checks have a verdict on every run of its
backlog, each pass takes a batch off the front of it, so the passes together take a longer and
longer front of the backlog, in its order and without a gap.
-/

namespace RunRadar.Scanner

variable {registry : Registry} {radar : Radar} {rule : Rule}

/-- With a verdict on every run of the backlog, scans take one batch after the other off its
front. -/
theorem backlog_after_scans (hsteady : registry.IsSteady) (batchSize : Nat) (pace : Pace)
    (hrule : radar.rule registry = .ok rule) (k : Nat) {e : Engine Memory} (he : Undisturbed e)
    (hradar : e.store.radars.filter (·.id = radar.id) = [radar])
    (hverdicts : ∀ run ∈ e.store.backlog radar rule.scope,
      (radar.score? registry rule.checks run).isSome) :
    let store := ((overMemory registry batchSize pace).afterScans e k).store
    let backlog := e.store.backlog radar rule.scope
    store.resultsFor radar.id = e.store.resultsFor radar.id ++
        (backlog.take (k * batchSize)).filterMap (radar.score? registry rule.checks) ∧
      store.backlog radar rule.scope = backlog.drop (k * batchSize) := by
  induction k generalizing e with
  | zero => simp
  | succ k ih =>
      obtain ⟨hrows, hleft⟩ := scan_turn hsteady batchSize pace he hrule hradar
      -- nothing of the batch stays behind
      rw [List.filter_eq_nil_iff.mpr fun run hrun => by
        simpa [Option.isSome_iff_ne_none] using hverdicts run (List.mem_of_mem_take hrun),
        List.nil_append] at hleft
      obtain ⟨hrows', hleft'⟩ := ih (he.scan hsteady batchSize pace)
        (by rwa [radars_scan hsteady batchSize pace he])
        (by rw [hleft]; exact fun run hrun => hverdicts run (List.mem_of_mem_drop hrun))
      have hcount : (k + 1) * batchSize = batchSize + k * batchSize := by
        rw [Nat.succ_mul, Nat.add_comm]
      intro store backlog
      constructor
      · calc store.resultsFor radar.id
          _ = e.store.resultsFor radar.id ++
                ((backlog.take batchSize).filterMap (radar.score? registry rule.checks) ++
                  ((backlog.drop batchSize).take (k * batchSize)).filterMap
                    (radar.score? registry rule.checks)) := by
            rw [← List.append_assoc, ← hrows, ← hleft]
            exact hrows'
          _ = _ := by rw [← List.filterMap_append, ← List.take_add, hcount]
      · calc store.backlog radar rule.scope
          _ = (backlog.drop batchSize).drop (k * batchSize) := by
            rw [← hleft]
            exact hleft'
          _ = _ := by rw [List.drop_drop, hcount]

/-- Results for runs that all have one are for these runs, in their order. -/
theorem map_run_filterMap_score? {checks : Tree} {runs : List Run}
    (h : ∀ run ∈ runs, (radar.score? registry checks run).isSome) :
    (runs.filterMap (radar.score? registry checks)).map (·.run) = runs.map (·.id) := by
  rw [List.map_filterMap, List.filterMap_eq_map_iff_forall_eq_some]
  intro run hrun
  obtain ⟨score, hscore⟩ := Option.isSome_iff_exists.mp (h run hrun)
  rw [hscore, Option.map_some, (Radar.key_of_score? hscore).2]

/-- Consecutive passes add results of a radar for the front of its backlog, in order and one for
each run, as far as they get with one batch each. Once they have got through the whole backlog,
each run of it has its result, and further passes add none.

The radar's checks have a verdict on every run of the backlog: by their condition, or by being
evaluated. -/
theorem backlog_drains_in_order (registry : Registry) (hsteady : registry.IsSteady)
    (batchSize : Nat) (pace : Pace) (radar : Radar) (rule : Rule)
    (hrule : radar.rule registry = .ok rule) (e : Engine Memory) (he : Undisturbed e)
    (hradar : e.store.radars.filter (·.id = radar.id) = [radar])
    (hcompile : rule.checks.needsEvaluator registry = false →
      ∃ p, rule.checks.compile registry = .ok p)
    (hchecks : rule.checks.needsEvaluator registry = true →
      ∀ run ∈ e.store.eligible radar rule.scope,
        ((Interpreter.inMemory registry).runChecks run rule.checks e).1.isOk)
    (k : Nat) :
    let rows k := ((overMemory registry batchSize pace).afterScans e k).store.resultsFor radar.id
    let backlog := e.store.backlog radar rule.scope
    Memory.IsOldestFirst (e.store.eligible radar rule.scope) backlog ∧
      (∃ added, rows k = e.store.resultsFor radar.id ++ added ∧
        added.map (·.run) = (backlog.take (k * batchSize)).map (·.id)) ∧
      (backlog.length ≤ k * batchSize →
        (∀ run ∈ backlog, ∃ row ∈ rows k, row.run = run.id) ∧
          ∀ j, rows (k + j) = rows k) := by
  intro rows backlog
  have hverdicts : ∀ run ∈ backlog, (radar.score? registry rule.checks run).isSome := by
    intro run hrun
    cases hneeds : rule.checks.needsEvaluator registry with
    | false =>
        obtain ⟨p, hp⟩ := hcompile hneeds
        exact Radar.isSome_score?_of_compile hneeds hp
    | true =>
        rw [Radar.isSome_score?_eq hsteady hneeds he.faults]
        exact hchecks hneeds run (Memory.mem_backlog.mp hrun)
  have hrows : ∀ k, rows k = e.store.resultsFor radar.id ++
      (backlog.take (k * batchSize)).filterMap (radar.score? registry rule.checks) :=
    fun k => (backlog_after_scans hsteady batchSize pace hrule k he hradar hverdicts).1
  have hruns : ∀ k, ((backlog.take (k * batchSize)).filterMap
      (radar.score? registry rule.checks)).map (·.run) =
        (backlog.take (k * batchSize)).map (·.id) :=
    fun k => map_run_filterMap_score? fun run hrun => hverdicts run (List.mem_of_mem_take hrun)
  refine ⟨Memory.isOldestFirst_oldestFirst _, ⟨_, hrows k, hruns k⟩, fun hdone => ⟨?_, ?_⟩⟩
  · intro run hrun
    have hid : run.id ∈ ((backlog.take (k * batchSize)).filterMap
        (radar.score? registry rule.checks)).map (·.run) := by
      rw [hruns, List.take_of_length_le hdone]
      exact List.mem_map_of_mem hrun
    obtain ⟨row, hrow, hfor⟩ := List.mem_map.mp hid
    exact ⟨row, by rw [hrows]; exact List.mem_append_right _ hrow, hfor⟩
  · intro j
    have hdone' : backlog.length ≤ (k + j) * batchSize :=
      Nat.le_trans hdone (Nat.mul_le_mul_right _ (Nat.le_add_right k j))
    rw [hrows, hrows, List.take_of_length_le hdone, List.take_of_length_le hdone']

/-- Of three runs in two batches, the one that was stored last is the oldest, and the other two
were created at the same instant. -/
theorem backlog_drains_in_two_passes :
    let registry := Registry.ofList
      [⟨"model", [], .evaluator (.steady fun _ _ => .ok ⟨true, none⟩)⟩]
    let radar : Radar := ⟨.nil, .nil, none, none, (Tree.identity .and).toJson,
      (Tree.leafOf "model" .null).toJson, ⟨0, 0, by decide⟩, none⟩
    let run (id : Uuid) (seconds : Int) : Run :=
      { ({} : VirtualRun).runUntil ⟨seconds, 0, by decide⟩ none with id }
    let e := Engine.start { radars := [radar], runs := [run ⟨5⟩ 7, run ⟨4⟩ 7, run ⟨6⟩ 3] }
    let rule : Rule := ⟨.always, Tree.leafOf "model" .null⟩
    let rows k := ((overMemory registry 2 .atOnce).afterScans e k).store.resultsFor radar.id
    registry.IsSteady ∧ Undisturbed e ∧ radar.rule registry = .ok rule ∧
      e.store.radars.filter (·.id = radar.id) = [radar] ∧
      rule.checks.needsEvaluator registry = true ∧
      (e.store.backlog radar rule.scope).map (·.id) = [⟨6⟩, ⟨5⟩, ⟨4⟩] ∧
      (rows 1).map (·.run) = [⟨6⟩, ⟨5⟩] ∧ (rows 2).map (·.run) = [⟨6⟩, ⟨5⟩, ⟨4⟩] := by
  intro registry radar run e rule rows
  have hsteady : registry.IsSteady := Registry.isSteady_ofList_singleton _ _ _
  have he : Undisturbed e := ⟨rfl, rfl, by decide⟩
  have hrule : radar.rule registry = .ok rule := by rfl
  have hradar : e.store.radars.filter (·.id = radar.id) = [radar] := by decide
  have hneeds : rule.checks.needsEvaluator registry = true := by decide
  have hbacklog : (e.store.backlog radar rule.scope).map (·.id) = [⟨6⟩, ⟨5⟩, ⟨4⟩] := by
    have heligible : e.store.eligible radar rule.scope = [run ⟨5⟩ 7, run ⟨4⟩ 7, run ⟨6⟩ 3] := rfl
    have htie : (run ⟨5⟩ 7).createdAt.le (run ⟨4⟩ 7).createdAt = true := by decide
    have holder : (run ⟨5⟩ 7).createdAt.le (run ⟨6⟩ 3).createdAt = false := by decide
    have hsorted : e.store.backlog radar rule.scope = [run ⟨6⟩ 3, run ⟨5⟩ 7, run ⟨4⟩ 7] := by
      rw [Memory.backlog, heligible, Memory.oldestFirst]
      generalize run ⟨5⟩ 7 = a, run ⟨4⟩ 7 = b, run ⟨6⟩ 3 = c at htie holder ⊢
      simp [List.mergeSort, List.MergeSort.Internal.splitInTwo, htie, holder]
    rw [hsorted]
    rfl
  have hrows : ∀ k, (rows k).map (·.run) = ([⟨6⟩, ⟨5⟩, ⟨4⟩] : List Uuid).take (k * 2) := by
    intro k
    obtain ⟨-, ⟨added, hadded, hruns⟩, -⟩ := backlog_drains_in_order registry hsteady 2 .atOnce
      radar rule hrule e he hradar (fun h => by rw [hneeds] at h; cases h) (fun _ run _ => rfl) k
    rw [← hbacklog, ← List.map_take, ← hruns]
    exact congrArg (List.map (·.run)) hadded
  exact ⟨hsteady, he, hrule, hradar, hneeds, hbacklog, hrows 1, hrows 2⟩

end RunRadar.Scanner
