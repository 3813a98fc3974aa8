import Mathlib.Data.List.Forall2
import RunRadar.Proofs.Engine.Evaluation
import RunRadar.Proofs.Store.Memory
import RunRadar.Scan.Pass

/-!
# RunRadar.Proofs.Scan.Scoring

What scoring a batch **adds to the store**. The runs of the batch are gone through once, and each
of them leaves one result behind or none, so the new results belong to some of the runs, in their
order. Nothing else in the store changes, and the guard stays as it is.

What the verdicts are is left open: `allowed` says which ones a run may get, and `Judges` says
that both ways of scoring keep to it. With every verdict allowed this is a statement about which
results appear, whatever the evaluators do.
-/

namespace RunRadar

open RunRadar.Action

/-! ### Gaining results -/

/-- From one engine to another, some results were added to the store, and the guard was left
alone. -/
structure Engine.Gains (e e' : Engine Memory) (scores : List Score) : Prop where
  store : e'.store = e.store.addScores scores
  flight : e'.flight = e.flight

namespace Engine

variable {e e₁ e₂ : Engine Memory} {scores further : List Score}

theorem Gains.refl (e : Engine Memory) : e.Gains e [] := ⟨by simp, rfl⟩

theorem Gains.trans (h : e.Gains e₁ scores) (h' : e₁.Gains e₂ further) :
    e.Gains e₂ (scores ++ further) :=
  ⟨by rw [h'.store, h.store, Memory.addScores_addScores], h'.flight.trans h.flight⟩

/-- Putting something on record adds no result. -/
theorem Gains.log (h : e.Gains e₁ scores) (event : LogEvent) :
    e.Gains (Action.log event e₁).2 scores := ⟨h.store, h.flight⟩

/-- Requests fail after some results were added as they did before. -/
theorem Gains.faults (h : e.Gains e₁ scores) : e₁.store.faults = e.store.faults := by
  rw [h.store, Memory.faults_addScores]

/-- An action that leaves store and guard alone adds no result. -/
theorem gains_of_keeps {α : Type} {a : Action Memory α}
    (h : Keeps (Engine.At e.store e.flight) a) : e.Gains (a e).2 [] := by
  obtain ⟨hstore, hflight⟩ := h e ⟨rfl, rfl⟩
  exact ⟨by rw [hstore, Memory.addScores_nil], hflight⟩

/-- Storing a result adds it, or fails and adds nothing. -/
theorem gains_insertResult (e : Engine Memory) (score : Score) :
    (insertResult Memory.storage score e).1 = .ok () ∧
        e.Gains (insertResult Memory.storage score e).2 [score] ∨
      (∃ err, (insertResult Memory.storage score e).1 = .error err) ∧
        e.Gains (insertResult Memory.storage score e).2 [] := by
  simp only [insertResult, recorded_apply, Memory.storage]
  split
  · exact .inr ⟨⟨_, rfl⟩, by simp, rfl⟩
  · exact .inl ⟨rfl, rfl, rfl⟩

end Engine

/-! ### Results for runs -/

/-- A result of a radar for a run, with a verdict that is allowed. -/
structure ScoreFor (radar : Radar) (allowed : Run → Bool → Prop) (score : Score) (run : Run) :
    Prop where
  radar_eq : score.radar = radar.id
  run_eq : score.run = run.id
  passed : allowed run score.passed

/-- Results for some of the runs, in their order and at most one for each. -/
abbrev ScoresFor (radar : Radar) (allowed : Run → Bool → Prop) :
    List Score → List Run → Prop := List.SublistForall₂ (ScoreFor radar allowed)

namespace ScoresFor

variable {radar : Radar} {allowed : Run → Bool → Prop} {score : Score}
  {scores further : List Score} {run : Run} {runs more : List Run}

theorem single (h : ScoreFor radar allowed score run) : ScoresFor radar allowed [score] [run] :=
  .cons h .nil

theorem append (h : ScoresFor radar allowed scores runs)
    (h' : ScoresFor radar allowed further more) :
    ScoresFor radar allowed (scores ++ further) (runs ++ more) := by
  obtain ⟨taken, hscores, hruns⟩ := List.sublistForall₂_iff.mp h
  obtain ⟨taken', hfurther, hmore⟩ := List.sublistForall₂_iff.mp h'
  exact List.sublistForall₂_iff.mpr
    ⟨taken ++ taken', List.rel_append hscores hfurther, hruns.append hmore⟩

/-- Each result belongs to one of the runs. -/
theorem exists_run (h : ScoresFor radar allowed scores runs) :
    ∀ score ∈ scores, ∃ run ∈ runs, ScoreFor radar allowed score run := by
  induction h with
  | nil => exact fun _ hs => absurd hs List.not_mem_nil
  | cons hscore _ ih =>
      refine List.forall_mem_cons.mpr ⟨⟨_, List.mem_cons_self, hscore⟩, fun score hs => ?_⟩
      obtain ⟨run, hrun, hfor⟩ := ih score hs
      exact ⟨run, List.mem_cons_of_mem _ hrun, hfor⟩
  | cons_right _ ih =>
      intro score hs
      obtain ⟨run, hrun, hfor⟩ := ih score hs
      exact ⟨run, List.mem_cons_of_mem _ hrun, hfor⟩

/-- The runs that got a result are some of the runs, in their order. -/
theorem map_run_sublist (h : ScoresFor radar allowed scores runs) :
    (scores.map (·.run)).Sublist (runs.map (·.id)) := by
  induction h with
  | nil => exact List.nil_sublist _
  | cons hscore _ ih =>
      rw [List.map_cons, List.map_cons, hscore.run_eq]
      exact ih.cons_cons _
  | cons_right _ ih => exact ih.cons _

end ScoresFor

/-- Both ways of scoring a run keep to the verdicts that are allowed, which may depend on the
requests that fail: checks that need an evaluator while a pass is in progress, and other checks
by their condition. -/
structure Scanner.Judges (registry : Registry) (pace : Pace) (rescan : Rescan Memory)
    (allowed : Faults → Tree → Run → Bool → Prop) : Prop where
  each : ∀ checks, checks.needsEvaluator registry = true → ∀ (run : Run) (m : Memory)
    (flight : Flight), flight.running = true →
      Ensures (Engine.At m flight)
        ((Interpreter.overMemory registry rescan).runChecksAt pace run checks)
        fun r => ∀ c, r = .ok c → allowed m.faults checks run c.passed
  batch : ∀ checks p, checks.needsEvaluator registry = false →
    checks.compile registry = .ok p → ∀ (faults : Faults) (run : Run),
      allowed faults checks run (p.holds run)

namespace Scanner

/-- The scanner of a store in memory. -/
abbrev overMemory (registry : Registry) (batchSize : Nat) (pace : Pace) : Scanner Memory :=
  ⟨Memory.storage, registry, batchSize, pace⟩

variable {registry : Registry} (batchSize : Nat) {pace : Pace} {rescan : Rescan Memory}
  (radar : Radar)

/-! ### Batches -/

/-- A batch leaves at most one result for each run. -/
theorem storeBatch_gains (registry : Registry) {allowed : Run → Bool → Prop}
    {matched : List Uuid} {runs : List Run}
    (h : ∀ run ∈ runs, allowed run (matched.contains run.id)) (stats : RadarStats)
    (e : Engine Memory) :
    ∃ scores, ScoresFor radar allowed scores runs ∧
      e.Gains ((overMemory registry batchSize pace).storeBatch radar matched runs stats e).2
        scores := by
  induction runs generalizing stats e with
  | nil => exact ⟨[], .nil, .refl e⟩
  | cons run runs ih =>
      have hrun : ScoreFor radar allowed ⟨radar.id, run.id, matched.contains run.id, []⟩ run :=
        ⟨rfl, rfl, h run List.mem_cons_self⟩
      have hrest := ih fun r hr => h r (List.mem_cons_of_mem _ hr)
      simp only [storeBatch, bind_apply]
      rcases Engine.gains_insertResult e ⟨radar.id, run.id, matched.contains run.id, []⟩ with
        ⟨hok, hgains⟩ | ⟨⟨err, herr⟩, hgains⟩
      · rw [hok]
        obtain ⟨scores, hscores, hgains'⟩ := hrest (stats.record (matched.contains run.id))
          (Action.log (.runScored run.id (matched.contains run.id)) _).2
        exact ⟨_ :: scores, .cons hrun hscores, (hgains.log _).trans hgains'⟩
      · rw [herr]
        obtain ⟨scores, hscores, hgains'⟩ := hrest stats.fail
          (Action.log (.resultNotStored radar.id run.id err) _).2
        exact ⟨scores, .cons_right hscores, (hgains.log _).trans hgains'⟩

section Each

variable {checks : Tree} {allowed : Run → Bool → Prop}

/-- A run whose checks have a verdict gets a result if that can be stored. -/
theorem scoreRun_gains {run : Run} {e : Engine Memory}
    (h : Ensures (Engine.At e.store e.flight)
      ((Interpreter.overMemory registry rescan).runChecksAt pace run checks)
      fun r => ∀ c, r = .ok c → allowed run c.passed) :
    ∃ scores, ScoresFor radar allowed scores [run] ∧
      e.Gains ((overMemory registry batchSize pace).scoreRun
        (Interpreter.overMemory registry rescan) radar checks run e).2 scores := by
  have hchecks := Engine.gains_of_keeps h.keeps
  have hverdict := (h e ⟨rfl, rfl⟩).1
  simp only [scoreRun, bind_apply]
  cases hr : ((Interpreter.overMemory registry rescan).runChecksAt pace run checks e).1 with
  | error err => exact ⟨[], .nil, hchecks⟩
  | ok c =>
      rcases Engine.gains_insertResult
          ((Interpreter.overMemory registry rescan).runChecksAt pace run checks e).2
          ⟨radar.id, run.id, c.passed, c.results⟩ with ⟨hok, hgains⟩ | ⟨⟨err, herr⟩, hgains⟩
      · simp only [bind_apply, hok]
        exact ⟨_, .single ⟨rfl, rfl, hverdict c hr⟩, hchecks.trans hgains⟩
      · simp only [bind_apply, herr]
        exact ⟨[], .nil, hchecks.trans hgains⟩

/-- Scoring run after run leaves at most one result for each. -/
theorem scoreEach_gains {runs : List Run} (stats : RadarStats) (e : Engine Memory)
    (h : ∀ run ∈ runs, ∀ m : Memory, m.faults = e.store.faults →
      Ensures (Engine.At m e.flight)
        ((Interpreter.overMemory registry rescan).runChecksAt pace run checks)
        fun r => ∀ c, r = .ok c → allowed run c.passed) :
    ∃ scores, ScoresFor radar allowed scores runs ∧
      e.Gains ((overMemory registry batchSize pace).scoreEach
        (Interpreter.overMemory registry rescan) radar checks runs stats e).2 scores := by
  induction runs generalizing stats e with
  | nil => exact ⟨[], .nil, .refl e⟩
  | cons run runs ih =>
      obtain ⟨scores, hscores, hgains⟩ :=
        scoreRun_gains batchSize radar (h run List.mem_cons_self e.store rfl)
      -- the results so far have changed neither the faults nor the guard
      have hrest : ∀ e' : Engine Memory, e.Gains e' scores → ∀ r ∈ runs, ∀ m : Memory,
          m.faults = e'.store.faults →
            Ensures (Engine.At m e'.flight)
              ((Interpreter.overMemory registry rescan).runChecksAt pace r checks)
              fun r' => ∀ c, r' = .ok c → allowed r c.passed := by
        intro e' hg r hr m hm
        rw [hg.flight]
        exact h r (List.mem_cons_of_mem _ hr) m (hm.trans hg.faults)
      simp only [scoreEach, bind_apply]
      cases ((overMemory registry batchSize pace).scoreRun (Interpreter.overMemory registry rescan)
          radar checks run e).1 with
      | ok passed =>
          have hlog := hgains.log (.runScored run.id passed)
          obtain ⟨further, hfurther, hgains'⟩ := ih (stats.record passed) _ (hrest _ hlog)
          exact ⟨scores ++ further, hscores.append hfurther, hlog.trans hgains'⟩
      | error err =>
          have hlog := hgains.log (.runNotScored radar.id run.id err)
          obtain ⟨further, hfurther, hgains'⟩ := ih stats.fail _ (hrest _ hlog)
          exact ⟨scores ++ further, hscores.append hfurther, hlog.trans hgains'⟩

end Each

/-- Either way of scoring leaves at most one result for each run, with a verdict that is
allowed. -/
theorem scoreRuns_gains {allowed : Faults → Tree → Run → Bool → Prop}
    (hj : Judges registry pace rescan allowed) {checks : Tree} {runs : List Run}
    (stats : RadarStats) {e : Engine Memory} (hflight : e.flight.running = true)
    (hdistinct : e.store.DistinctRuns) (hruns : ∀ run ∈ runs, run ∈ e.store.runs) :
    ∃ scores, ScoresFor radar (allowed e.store.faults checks) scores runs ∧
      e.Gains ((overMemory registry batchSize pace).scoreRuns rescan radar checks runs stats e).2
        scores := by
  unfold scoreRuns
  split
  · next hneeds =>
      refine scoreEach_gains batchSize radar stats e fun run _ m hm => ?_
      rw [← hm]
      exact hj.each checks hneeds run m e.flight hflight
  · next hneeds =>
      cases hp : checks.compile registry with
      | error err => exact ⟨[], .nil, .refl e⟩
      | ok p =>
          -- every run of the batch is asked about, so being found means satisfying the condition
          have hmatched : ∀ run ∈ runs, allowed e.store.faults checks run
              ((e.store.matchingIds (runs.map (·.id)) p).contains run.id) := by
            intro run hrun
            rw [Memory.contains_matchingIds hdistinct (hruns run hrun) (List.mem_map_of_mem hrun)]
            exact hj.batch checks p (by simpa using hneeds) hp _ run
          have hanswer : Ensures (Engine.At e.store e.flight)
              (matchingIds Memory.storage (runs.map (·.id)) p) _ := ensures_matchingIds
          have hasked := Engine.gains_of_keeps hanswer.keeps
          simp only [bind_apply]
          cases hm : (matchingIds Memory.storage (runs.map (·.id)) p e).1 with
          | error err => exact ⟨[], .nil, hasked⟩
          | ok matched =>
              obtain rfl := Memory.eq_of_answer_eq_ok ((hanswer e ⟨rfl, rfl⟩).1.symm.trans hm)
              obtain ⟨scores, hscores, hgains⟩ := storeBatch_gains batchSize radar registry
                hmatched stats
                (matchingIds Memory.storage (runs.map (·.id)) p e).2
              exact ⟨scores, hscores, hasked.trans hgains⟩

end Scanner

end RunRadar
