import RunRadar.Proofs.Scan.Scoring

/-!
# RunRadar.Proofs.Scan.Pass

A pass makes the store **grow radar by radar**. `Memory.Grows` is what a pass can do to a store:
for one listed radar after the other, results are added for some of the runs that it could still
score. Everything about results after a pass follows from that by induction, and where the pass
failed on its way does not matter.

The guard is needed for this. An evaluator may start a scan in the middle of a pass, between the
moment the runs are fetched and the moment their results are stored; it is refused, so the runs
that were fetched are still without a result.
-/

namespace RunRadar

open RunRadar.Action

/-! ### Growing stores -/

namespace Memory

section Growth

variable (registry : Registry) (batchSize : Nat)
  (allowed : Faults → Tree → Run → Bool → Prop)

/-- What one radar's part of a pass can add to a store. -/
inductive RadarAdds (m : Memory) (radar : Radar) : List Score → Prop
  | nothing : RadarAdds m radar []
  /-- The radar has a rule, and some of the runs that were fetched by it have a result. -/
  | scored {rule : Rule} {scores : List Score} (hrule : radar.rule registry = .ok rule)
    (hscores : ScoresFor radar (allowed m.faults rule.checks) scores
      (m.unscored radar rule.scope batchSize)) : RadarAdds m radar scores

/-- What the radars of a store can add to it, one after the other. -/
inductive Grows (m : Memory) : Memory → Prop
  | refl : Grows m m
  | step {m' : Memory} {radar : Radar} {scores : List Score} (h : Grows m m')
    (hradar : radar ∈ m.radars) (hscores : RadarAdds registry batchSize allowed m' radar scores) :
    Grows m (m'.addScores scores)

end Growth

variable {registry : Registry} {batchSize : Nat} {allowed : Faults → Tree → Run → Bool → Prop}
  {m m' : Memory} {radar : Radar} {scores : List Score}

/-- Apart from its results, a store stays as it is. -/
theorem Grows.frame (h : Grows registry batchSize allowed m m') :
    m'.radars = m.radars ∧ m'.runs = m.runs ∧ m'.faults = m.faults := by
  induction h with
  | refl => exact ⟨rfl, rfl, rfl⟩
  | step _ _ _ ih => exact ih

theorem Grows.distinctRuns (h : Grows registry batchSize allowed m m') (hruns : m.DistinctRuns) :
    m'.DistinctRuns := by
  rw [DistinctRuns, h.frame.2.1]
  exact hruns

/-- Results are only added. -/
theorem Grows.results_kept (h : Grows registry batchSize allowed m m') :
    m.results <+: m'.results := by
  induction h with
  | refl => exact List.prefix_refl _
  | step _ _ _ ih => exact ih.trans (List.prefix_append _ _)

/-- What a radar adds are results of its own, for different runs that it had no result for. -/
theorem RadarAdds.uniqueResults (h : RadarAdds registry batchSize allowed m radar scores)
    (hruns : m.DistinctRuns) (hresults : m.UniqueResults) :
    (m.addScores scores).UniqueResults := by
  cases h with
  | nothing => rwa [addScores_nil]
  | scored hrule hscores =>
      refine hresults.addScores radar ?_ ?_ ?_
      · intro score hscore
        obtain ⟨run, _, hfor⟩ := hscores.exists_run score hscore
        exact hfor.radar_eq
      · exact (nodup_unscored hruns).sublist hscores.map_run_sublist
      · intro score hscore
        obtain ⟨run, hrun, hfor⟩ := hscores.exists_run score hscore
        rw [hfor.run_eq]
        exact (mem_of_mem_unscored hrun).2.2.1

theorem Grows.uniqueResults (h : Grows registry batchSize allowed m m') (hruns : m.DistinctRuns)
    (hresults : m.UniqueResults) : m'.UniqueResults := by
  induction h with
  | refl => exact hresults
  | step h _ hscores ih => exact hscores.uniqueResults (h.distinctRuns hruns) ih

end Memory

namespace Scanner

/-- The engine is in the middle of a pass that started with a given store. -/
structure During (registry : Registry) (batchSize : Nat)
    (allowed : Faults → Tree → Run → Bool → Prop) (m : Memory) (e : Engine Memory) : Prop where
  store : m.Grows registry batchSize allowed e.store
  running : e.flight.running = true

variable {registry : Registry} {batchSize : Nat} {pace : Pace} {rescan : Rescan Memory}
  {allowed : Faults → Tree → Run → Bool → Prop} {m : Memory} {flight : Flight}

/-! ### Parts of a pass -/

theorem keeps_log_during (event : LogEvent) :
    Keeps (During registry batchSize allowed m) (Action.log event) :=
  fun _ he => ⟨he.store, he.running⟩

/-- What a rule adds to a store by which its runs were fetched. -/
theorem scoreRuns_adds (batchSize : Nat) (hj : Judges registry pace rescan allowed) {radar : Radar}
    {rule : Rule} (hrule : radar.rule registry = .ok rule) (stats : RadarStats) {e : Engine Memory}
    (hflight : e.flight.running = true) (hdistinct : e.store.DistinctRuns) :
    ∃ scores, e.store.RadarAdds registry batchSize allowed radar scores ∧
      e.Gains ((overMemory registry batchSize pace).scoreRuns rescan radar rule.checks
        (e.store.unscored radar rule.scope batchSize) stats e).2 scores := by
  have hstored : ∀ run ∈ e.store.unscored radar rule.scope batchSize, run ∈ e.store.runs :=
    fun run hrun => (Memory.mem_of_mem_unscored hrun).1
  obtain ⟨scores, hscores, hgains⟩ := scoreRuns_gains batchSize radar hj stats hflight
    hdistinct hstored
  exact ⟨scores, .scored hrule hscores, hgains⟩

/-- One radar's part of a pass adds results for runs that the radar could still score. -/
theorem scanRadar_gains (batchSize : Nat) (radar : Radar) (hj : Judges registry pace rescan allowed)
    {e : Engine Memory} (hflight : e.flight.running = true) (hdistinct : e.store.DistinctRuns) :
    ∃ scores, e.store.RadarAdds registry batchSize allowed radar scores ∧
      e.Gains ((overMemory registry batchSize pace).scanRadar rescan radar e).2 scores := by
  unfold scanRadar
  cases hrule : radar.rule registry with
  | error err => exact ⟨[], .nothing, .refl e⟩
  | ok rule =>
      have hanswer : Ensures (Engine.At e.store e.flight)
          (Action.fetchUnscored Memory.storage radar rule.scope batchSize) _ :=
        ensures_fetchUnscored
      have hfetched := Engine.gains_of_keeps hanswer.keeps
      simp only [applyRule, bind_apply]
      cases hruns : (Action.fetchUnscored Memory.storage radar rule.scope batchSize e).1 with
      | error err => exact ⟨[], .nothing, hfetched⟩
      | ok runs =>
          obtain rfl := Memory.eq_of_answer_eq_ok ((hanswer e ⟨rfl, rfl⟩).1.symm.trans hruns)
          have hlog := hfetched.log (.analyzing radar.id
            (e.store.unscored radar rule.scope batchSize).length)
          simp only [bind_apply]
          split
          · exact ⟨[], .nothing, hlog⟩
          · -- fetching and logging have left the store as it was when the runs were fetched
            obtain ⟨scores, hscores, hgains⟩ := scoreRuns_adds batchSize hj hrule
              { fetched := (e.store.unscored radar rule.scope batchSize).length }
              (e := (Action.log (.analyzing radar.id _) (Action.fetchUnscored Memory.storage radar
                rule.scope batchSize e).2).2) hflight hdistinct
            exact ⟨scores, hscores, hlog.trans hgains⟩

/-- The part of a listed radar continues a pass. -/
theorem keeps_scanRadar (hj : Judges registry pace rescan allowed) (hdistinct : m.DistinctRuns)
    {radar : Radar} (hradar : radar ∈ m.radars) :
    Keeps (During registry batchSize allowed m)
      ((overMemory registry batchSize pace).scanRadar rescan radar) := by
  intro e he
  obtain ⟨scores, hscores, hgains⟩ :=
    scanRadar_gains batchSize radar hj he.running
      (he.store.distinctRuns hdistinct)
  constructor
  · rw [hgains.store]
    exact he.store.step hradar hscores
  · rw [hgains.flight]
    exact he.running

/-- The parts of listed radars continue a pass. -/
theorem keeps_scanRadars (hj : Judges registry pace rescan allowed) (hdistinct : m.DistinctRuns)
    {radars : List Radar} (hradars : ∀ radar ∈ radars, radar ∈ m.radars) (stats : ScanStats) :
    Keeps (During registry batchSize allowed m)
      ((overMemory registry batchSize pace).scanRadars rescan radars stats) := by
  induction radars generalizing stats with
  | nil => exact keeps_pure _
  | cons radar radars ih =>
      have hrest := ih fun r hr => hradars r (List.mem_cons_of_mem _ hr)
      refine (keeps_scanRadar hj hdistinct (hradars radar List.mem_cons_self)).bind fun r => ?_
      -- whether the radar's part failed makes a difference to the counters and the log only
      cases r with
      | ok radarStats => exact hrest _
      | error err => exact (keeps_log_during _).bind fun _ => hrest _

/-- A pass continues itself up to its end. -/
theorem keeps_pass (batchSize : Nat) (hj : Judges registry pace rescan allowed)
    (hdistinct : m.DistinctRuns) :
    Keeps (During registry batchSize allowed m)
      ((overMemory registry batchSize pace).pass rescan) := by
  intro e he
  obtain ⟨hanswer, hlisted⟩ := ensures_listRadars e ⟨rfl, rfl⟩
  have hduring : During registry batchSize allowed m (Action.listRadars Memory.storage e).2 := by
    constructor
    · rw [hlisted.store]
      exact he.store
    · rw [hlisted.flight]
      exact he.running
  simp only [pass, bind_apply]
  cases hr : (Action.listRadars Memory.storage e).1 with
  | error err => exact hduring
  | ok radars =>
      -- no part of a pass adds a radar, so those that are listed now were there at the start
      obtain rfl := Memory.eq_of_answer_eq_ok (hanswer.symm.trans hr)
      have hradars : ∀ radar ∈ e.store.radars, radar ∈ m.radars :=
        fun radar h => he.store.frame.1 ▸ h
      exact ((keeps_scanRadars hj hdistinct hradars _).bind fun stats =>
        (keeps_log_during _).bind fun _ => keeps_pure _) _ hduring

/-! ### Scans -/

/-- While a pass is in progress, a scan of any depth is refused and changes nothing but the
log. -/
theorem scanTo_of_running {σ : Type} (scanner : Scanner σ) (depth : Nat) (e : Engine σ)
    (h : e.flight.running = true) :
    scanner.scanTo depth e = (.ok .skipped, { e with log := e.log ++ [.alreadyRunning] }) := by
  have hrefused : e.flight.tryAcquire = (false, e.flight) := by
    rw [Flight.tryAcquire, if_pos h]
  cases depth <;>
    simp only [scanTo, guarded, bind_apply, get_apply, hrefused, Bool.false_eq_true, if_false,
      log_apply, pure_apply]

/-- A scan that finds another one in progress leaves store and guard alone. -/
theorem keeps_scanTo_of_running (scanner : Scanner Memory) (depth : Nat)
    (h : flight.running = true) : Keeps (Engine.At m flight) (scanner.scanTo depth) := by
  rintro e ⟨rfl, rfl⟩
  rw [scanTo_of_running scanner depth e h]
  exact ⟨rfl, rfl⟩

/-- What a scan, of any depth, does to the store. -/
theorem scanTo_grows {depth : Nat}
    (hj : Judges registry pace ((overMemory registry batchSize pace).scanTo depth) allowed)
    (e : Engine Memory) (hdistinct : e.store.DistinctRuns) :
    e.store.Grows registry batchSize allowed
      ((overMemory registry batchSize pace).scanTo (depth + 1) e).2.store := by
  by_cases hflight : e.flight.running = true
  · rw [scanTo_of_running _ _ _ hflight]
    exact .refl
  · -- the pass runs with the guard taken, and giving it back does not touch the store
    have hpass := keeps_pass batchSize hj hdistinct
      { e with flight := ⟨true⟩ } ⟨.refl, rfl⟩
    have hacquire : e.flight.tryAcquire = (true, ⟨true⟩) := by
      rw [Flight.tryAcquire, if_neg hflight]
    simp only [scanTo, guarded, bind_apply, get_apply, hacquire, if_true, modify_apply,
      pure_apply]
    exact hpass.store

end Scanner

end RunRadar
