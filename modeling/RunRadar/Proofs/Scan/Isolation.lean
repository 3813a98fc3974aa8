import RunRadar.Proofs.Scan.Denotation
import RunRadar.Run.Virtual

/-!
# RunRadar.Proofs.Scan.Isolation

Radars are **isolated** from each other. What a radar adds to a store depends on the runs, on the
requests that fail and on the radar's own results, and on nothing else in the store
(`Memory.additions_congr`). What it adds are results of its own (`Memory.radar_of_mem_additions`).
So the radars before it in a pass change nothing that it reads, the radars behind it change nothing
that it wrote, and two stores with different other radars gain the same results for it.
-/

namespace RunRadar

namespace Memory

variable {registry : Registry} {batchSize : Nat} {m m' : Memory} {radar : Radar}

/-! ### What a radar reads -/

/-- The results of a radar tell which runs it has scored. -/
theorem isScored_eq_any (m : Memory) (radar run : Uuid) :
    m.isScored radar run = (m.resultsFor radar).any (·.run = run) := by
  simp [isScored, resultsFor, List.any_filter]

/-- A radar adds the same to stores with the same runs and faults, when its own results are the
same in both. -/
theorem additions_congr (hruns : m.runs = m'.runs) (hfaults : m.faults = m'.faults)
    (hrows : m.resultsFor radar.id = m'.resultsFor radar.id) :
    m.additions registry batchSize radar = m'.additions registry batchSize radar := by
  have hscored : ∀ run, m.isScored radar.id run = m'.isScored radar.id run := by
    intro run
    rw [isScored_eq_any, hrows, ← isScored_eq_any]
  have hunscored : ∀ scope limit, m.unscored radar scope limit = m'.unscored radar scope limit := by
    intro scope limit
    simp only [unscored, eligible, hruns, hscored]
  have hmatching : ∀ ids p, m.matchingIds ids p = m'.matchingIds ids p := by
    intro ids p
    rw [matchingIds, hruns, ← matchingIds]
  simp only [additions, verdicts, hfaults, hunscored, hmatching]

/-! ### What a radar writes -/

/-- Results that checks have for runs are results of the radar. -/
theorem radar_of_mem_verdicts {checks : Tree} {runs : List Run} {score : Score}
    (h : score ∈ m.verdicts registry radar checks runs) : score.radar = radar.id := by
  unfold verdicts at h
  split at h
  · obtain ⟨run, -, hscore⟩ := List.mem_filterMap.mp h
    unfold Radar.runScore? at hscore
    split at hscore
    · cases hscore
    · cases hscore
      rfl
  · split at h
    · cases h
    · split at h
      · cases h
      · obtain ⟨run, -, rfl⟩ := List.mem_map.mp h
        rfl

/-- A radar adds results of its own. -/
theorem radar_of_mem_additions {score : Score}
    (h : score ∈ m.additions registry batchSize radar) : score.radar = radar.id := by
  unfold additions at h
  split at h
  · cases h
  · split at h
    · cases h
    · exact radar_of_mem_verdicts (List.mem_of_mem_filter h)

/-- To its own results a radar adds all that it adds. -/
theorem resultsFor_additions (m : Memory) (radar : Radar) :
    (m.addScores (m.additions registry batchSize radar)).resultsFor radar.id =
      m.resultsFor radar.id ++ m.additions registry batchSize radar := by
  have hown : ∀ score ∈ m.additions registry batchSize radar, decide (score.radar = radar.id) :=
    fun score hscore => decide_eq_true (radar_of_mem_additions hscore)
  rw [resultsFor, results_addScores, List.filter_append, List.filter_eq_self.mpr hown]
  rfl

/-- To the results of another radar it adds none. -/
theorem resultsFor_additions_of_ne (m : Memory) {id : Uuid} (h : radar.id ≠ id) :
    (m.addScores (m.additions registry batchSize radar)).resultsFor id = m.resultsFor id := by
  have hother : ∀ score ∈ m.additions registry batchSize radar, ¬decide (score.radar = id) := by
    intro score hscore
    rw [radar_of_mem_additions hscore]
    simpa using h
  rw [resultsFor, results_addScores, List.filter_append, List.filter_eq_nil_iff.mpr hother,
    List.append_nil]
  rfl

/-! ### Passes -/

/-- Radars with other identifiers leave the results of a radar alone. -/
theorem resultsFor_scanned_of_ne (registry : Registry) (batchSize : Nat) (m : Memory)
    {radars : List Radar} {id : Uuid} (h : ∀ radar ∈ radars, radar.id ≠ id) :
    (m.scanned registry batchSize radars).resultsFor id = m.resultsFor id := by
  induction radars generalizing m with
  | nil => rfl
  | cons radar radars ih =>
      obtain ⟨hradar, hradars⟩ := List.forall_mem_cons.mp h
      exact (ih _ hradars).trans (resultsFor_additions_of_ne m hradar)

/-- Among radars with other identifiers, a radar adds what it adds by itself. -/
theorem resultsFor_scanned (registry : Registry) (batchSize : Nat) (m : Memory)
    {radars : List Radar} (h : radars.filter (·.id = radar.id) = [radar]) :
    (m.scanned registry batchSize radars).resultsFor radar.id =
      m.resultsFor radar.id ++ m.additions registry batchSize radar := by
  obtain ⟨before, behind, rfl, hbefore, -, hbehind⟩ := List.filter_eq_cons_iff.mp h
  have hbefore' : ∀ r ∈ before, r.id ≠ radar.id := fun r hr => by simpa using hbefore r hr
  have hbehind' : ∀ r ∈ behind, r.id ≠ radar.id :=
    fun r hr => by simpa using List.filter_eq_nil_iff.mp hbehind r hr
  -- where the radar's turn comes, all that it reads is as it was at the start
  obtain ⟨hruns, hfaults⟩ := scanned_frame registry batchSize m before
  have hrows := resultsFor_scanned_of_ne registry batchSize m hbefore'
  have hadds : (m.scanned registry batchSize before).additions registry batchSize radar =
      m.additions registry batchSize radar := additions_congr hruns hfaults hrows
  rw [scanned, List.foldl_append, List.foldl_cons]
  calc
    _ = ((m.scanned registry batchSize before).addScores
          ((m.scanned registry batchSize before).additions registry batchSize radar)).resultsFor
            radar.id := resultsFor_scanned_of_ne registry batchSize _ hbehind'
    _ = (m.scanned registry batchSize before).resultsFor radar.id ++
          (m.scanned registry batchSize before).additions registry batchSize radar :=
      resultsFor_additions _ radar
    _ = m.resultsFor radar.id ++ m.additions registry batchSize radar := by rw [hrows, hadds]

end Memory

namespace Scanner

/-- A pass adds the same results for a radar to two stores with the same runs and faults, whatever
the other radars are in each of them and whatever these come to, when the radar has the same
results in both and no other radar has its identifier. They are the results that the radar adds by
itself. -/
theorem scan_isolates_radars (registry : Registry) (hsteady : registry.IsSteady) (batchSize : Nat)
    (pace : Pace) (radar : Radar) (e e' : Engine Memory) (hidle : e.flight = .idle)
    (hidle' : e'.flight = .idle)
    (hruns : e.store.runs = e'.store.runs) (hfaults : e.store.faults = e'.store.faults)
    (hlist : e.store.faults.list = false)
    (hradar : e.store.radars.filter (·.id = radar.id) = [radar])
    (hradar' : e'.store.radars.filter (·.id = radar.id) = [radar])
    (hrows : e.store.resultsFor radar.id = e'.store.resultsFor radar.id) :
    let scan := (overMemory registry batchSize pace).scan
    let rows := e.store.additions registry batchSize radar
    (scan e).2.store.resultsFor radar.id = e.store.resultsFor radar.id ++ rows ∧
      (scan e').2.store.resultsFor radar.id = e'.store.resultsFor radar.id ++ rows := by
  intro scan rows
  have hstore : (scan e).2.store = e.store.scanned registry batchSize e.store.radars :=
    (scanTo_at hsteady 0 hidle hlist).2.store
  have hstore' : (scan e').2.store = e'.store.scanned registry batchSize e'.store.radars :=
    (scanTo_at hsteady 0 hidle' (hfaults ▸ hlist)).2.store
  constructor
  · rw [hstore, Memory.resultsFor_scanned registry batchSize _ hradar]
  · rw [hstore', Memory.resultsFor_scanned registry batchSize _ hradar',
      ← Memory.additions_congr hruns hfaults hrows]

/-- A radar scores a run alike behind a radar with a malformed scope and before one that has scored
the run already. -/
theorem radar_scores_alike_among_others :
    let registry := Registry.ofList
      [⟨"model", [], .evaluator (.steady fun run _ => .ok ⟨run.kind = "llm", none⟩)⟩]
    let radar (id : Uuid) (view : Json) : Radar := ⟨id, .nil, none, none, view,
      (Tree.leafOf "model" .null).toJson, ⟨0, 0, by decide⟩, none⟩
    let everything := (Tree.identity .and).toJson
    let run := ({} : VirtualRun).runUntil ⟨0, 0, by decide⟩ none
    let e := Engine.start { radars := [radar ⟨2⟩ .null, radar ⟨1⟩ everything], runs := [run] }
    let e' := Engine.start
      { radars := [radar ⟨1⟩ everything, radar ⟨3⟩ everything], runs := [run],
        results := [⟨⟨3⟩, run.id, false, []⟩] }
    let scan := (overMemory registry 10 .atOnce).scan
    registry.IsSteady ∧
      e.store.radars.filter (·.id = ⟨1⟩) = [radar ⟨1⟩ everything] ∧
      e'.store.radars.filter (·.id = ⟨1⟩) = [radar ⟨1⟩ everything] ∧
      e.store.resultsFor ⟨1⟩ = [] ∧ e'.store.resultsFor ⟨1⟩ = [] ∧
      ((scan e).2.store.resultsFor ⟨1⟩).map (·.passed) = [true] ∧
      (scan e).2.store.resultsFor ⟨1⟩ = (scan e').2.store.resultsFor ⟨1⟩ := by
  intro registry radar everything run e e' scan
  have hsteady : registry.IsSteady := Registry.isSteady_ofList_singleton _ _ _
  have hradar : e.store.radars.filter (·.id = ⟨1⟩) = [radar ⟨1⟩ everything] := by decide
  have hradar' : e'.store.radars.filter (·.id = ⟨1⟩) = [radar ⟨1⟩ everything] := by decide
  have hrows : e.store.resultsFor ⟨1⟩ = [] := by decide
  have hrows' : e'.store.resultsFor ⟨1⟩ = [] := by decide
  obtain ⟨hscan, hscan'⟩ := scan_isolates_radars registry hsteady 10 .atOnce
    (radar ⟨1⟩ everything) e e' rfl rfl rfl rfl rfl hradar hradar' (hrows.trans hrows'.symm)
  refine ⟨hsteady, hradar, hradar', hrows, hrows', by decide +kernel, ?_⟩
  exact hscan.trans ((congrArg (· ++ _) (hrows.trans hrows'.symm)).trans hscan'.symm)

end Scanner

end RunRadar
