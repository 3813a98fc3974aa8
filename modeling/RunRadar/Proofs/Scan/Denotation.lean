import RunRadar.Proofs.Scan.Pass

/-!
# RunRadar.Proofs.Scan.Denotation

What a pass adds to a store **exactly**, when the evaluators are functions of run and params. Each
radar's part is then a function of the store that it finds (`Memory.additions`), and a pass is the
fold of these functions over the listed radars (`Memory.scanned`).

Neither the guard nor the records of the engine occur in this, and no scan is started on the way.
-/

namespace RunRadar

open RunRadar.Action

/-! ### What is added -/

/-- Of some results, those that can be stored. -/
def Faults.storable (faults : Faults) (scores : List Score) : List Score :=
  scores.filter fun score => !faults.insert.contains score.run

theorem Faults.storable_append (faults : Faults) (scores further : List Score) :
    faults.storable (scores ++ further) = faults.storable scores ++ faults.storable further :=
  List.filter_append scores further

namespace Radar

/-- The result of a radar for a run of a batch. -/
def batchScore (radar : Radar) (matched : List Uuid) (run : Run) : Score :=
  ⟨radar.id, run.id, matched.contains run.id, []⟩

/-- The result of a radar for a run by itself, if its checks have a verdict. -/
def runScore? (registry : Registry) (faults : Faults) (radar : Radar) (checks : Tree)
    (run : Run) : Option Score :=
  match checks.checked (Leaf.answer registry faults run) with
  | .error _ => none
  | .ok c => some ⟨radar.id, run.id, c.passed, c.results⟩

end Radar

namespace Memory

section Additions

variable (registry : Registry) (batchSize : Nat)

/-- The results that checks have for runs, whether they can be stored or not. -/
def verdicts (m : Memory) (radar : Radar) (checks : Tree) (runs : List Run) : List Score :=
  if checks.needsEvaluator registry then
    runs.filterMap (radar.runScore? registry m.faults checks)
  else
    match checks.compile registry with
    | .error _ => []
    | .ok p =>
      if m.faults.matching then []
      else runs.map (radar.batchScore (m.matchingIds (runs.map (·.id)) p))

/-- What one radar's part of a pass adds to a store. -/
def additions (m : Memory) (radar : Radar) : List Score :=
  match radar.rule registry with
  | .error _ => []
  | .ok rule =>
    if m.faults.fetch.contains radar.id then []
    else m.faults.storable
      (m.verdicts registry radar rule.checks (m.unscored radar rule.scope batchSize))

/-- The store after the parts of some radars. -/
def scanned (m : Memory) (radars : List Radar) : Memory :=
  radars.foldl (fun m radar => m.addScores (m.additions registry batchSize radar)) m

end Additions

/-- Checks have no results for no runs. -/
@[simp] theorem verdicts_nil (registry : Registry) (m : Memory) (radar : Radar) (checks : Tree) :
    m.verdicts registry radar checks [] = [] := by
  unfold verdicts
  split
  · rfl
  · cases checks.compile registry with
    | error e => rfl
    | ok p => exact ite_self []

/-- Radars change nothing but results. -/
theorem scanned_frame (registry : Registry) (batchSize : Nat) (m : Memory)
    (radars : List Radar) :
    (m.scanned registry batchSize radars).runs = m.runs ∧
      (m.scanned registry batchSize radars).faults = m.faults := by
  induction radars generalizing m with
  | nil => exact ⟨rfl, rfl⟩
  | cons radar radars ih => exact ih _

end Memory

/-! ### Storing -/

/-- Storing a result adds it if it can be stored. -/
theorem Engine.gains_insertResult_storable (e : Engine Memory) (score : Score) :
    e.Gains (insertResult Memory.storage score e).2 (e.store.faults.storable [score]) := by
  simp only [insertResult, recorded_apply, Memory.storage, Faults.storable, List.filter_cons,
    List.filter_nil]
  by_cases h : e.store.faults.insert.contains score.run = true
  · simp only [h, if_true, Bool.not_true, Bool.false_eq_true, if_false]
    exact ⟨by simp, rfl⟩
  · simp only [h, Bool.not_false, if_true]
    exact ⟨rfl, rfl⟩

namespace Scanner

variable {registry : Registry} {batchSize : Nat} {pace : Pace} {rescan : Rescan Memory}
  {radar : Radar}

/-- A batch adds its results as far as they can be stored. -/
theorem storeBatch_gains_storable (matched : List Uuid) (runs : List Run) (stats : RadarStats)
    (e : Engine Memory) :
    e.Gains ((overMemory registry batchSize pace).storeBatch radar matched runs stats e).2
      (e.store.faults.storable (runs.map (radar.batchScore matched))) := by
  induction runs generalizing stats e with
  | nil => exact .refl e
  | cons run runs ih =>
      have hgains := e.gains_insertResult_storable (radar.batchScore matched run)
      have hsplit : e.store.faults.storable ((run :: runs).map (radar.batchScore matched)) =
          e.store.faults.storable [radar.batchScore matched run] ++
            e.store.faults.storable (runs.map (radar.batchScore matched)) :=
        Faults.storable_append _ [_] _
      rw [hsplit]
      simp only [storeBatch, bind_apply]
      -- whether storing failed only decides what is logged and counted
      cases (insertResult Memory.storage ⟨radar.id, run.id, matched.contains run.id, []⟩ e).1 with
      | ok _ =>
          have hlog := hgains.log (.runScored run.id (matched.contains run.id))
          exact hlog.trans (hlog.faults ▸ ih _ _)
      | error err =>
          have hlog := hgains.log (.resultNotStored radar.id run.id err)
          exact hlog.trans (hlog.faults ▸ ih _ _)

/-! ### Evaluating -/

section Each

variable {checks : Tree} (hsteady : registry.IsSteady)

include hsteady

/-- A run by itself adds its result if there is one that can be stored. -/
theorem scoreRun_gains_storable (run : Run) (e : Engine Memory) :
    e.Gains ((overMemory registry batchSize pace).scoreRun
        (Interpreter.overMemory registry rescan) radar checks run e).2
      (e.store.faults.storable (radar.runScore? registry e.store.faults checks run).toList) := by
  have hensures : Ensures (Engine.At e.store e.flight)
      ((Interpreter.overMemory registry rescan).runChecksAt pace run checks) _ :=
    Interpreter.ensures_runChecksAt_answer hsteady checks
  have hchecks := Engine.gains_of_keeps hensures.keeps
  have hverdict := (hensures e ⟨rfl, rfl⟩).1
  simp only [scoreRun, bind_apply, Radar.runScore?, ← hverdict]
  cases ((Interpreter.overMemory registry rescan).runChecksAt pace run checks e).1 with
  | error err => exact hchecks
  | ok c =>
      have hgains := Engine.gains_insertResult_storable
        ((Interpreter.overMemory registry rescan).runChecksAt pace run checks e).2
        ⟨radar.id, run.id, c.passed, c.results⟩
      rw [hchecks.faults] at hgains
      simp only [bind_apply]
      cases (insertResult Memory.storage ⟨radar.id, run.id, c.passed, c.results⟩
        ((Interpreter.overMemory registry rescan).runChecksAt pace run checks e).2).1 <;>
        exact hchecks.trans hgains

/-- Runs one after the other add their results as far as they can be stored. -/
theorem scoreEach_gains_storable (runs : List Run) (stats : RadarStats) (e : Engine Memory) :
    e.Gains ((overMemory registry batchSize pace).scoreEach (Interpreter.overMemory registry rescan)
        radar checks runs stats e).2
      (e.store.faults.storable
        (runs.filterMap (radar.runScore? registry e.store.faults checks))) := by
  induction runs generalizing stats e with
  | nil => exact .refl e
  | cons run runs ih =>
      have hgains : e.Gains ((overMemory registry batchSize pace).scoreRun
          (Interpreter.overMemory registry rescan) radar checks run e).2 _ :=
        scoreRun_gains_storable hsteady run e
      have hsplit : (run :: runs).filterMap (radar.runScore? registry e.store.faults checks) =
          (radar.runScore? registry e.store.faults checks run).toList ++
            runs.filterMap (radar.runScore? registry e.store.faults checks) := by
        rw [List.filterMap_cons]
        cases radar.runScore? registry e.store.faults checks run <;> rfl
      rw [hsplit, Faults.storable_append]
      simp only [scoreEach, bind_apply]
      cases ((overMemory registry batchSize pace).scoreRun (Interpreter.overMemory registry rescan)
          radar checks run e).1 with
      | ok passed =>
          have hlog := hgains.log (.runScored run.id passed)
          exact hlog.trans (hlog.faults ▸ ih _ _)
      | error err =>
          have hlog := hgains.log (.runNotScored radar.id run.id err)
          exact hlog.trans (hlog.faults ▸ ih _ _)

/-! ### Radars -/

/-- Runs add the results that checks have for them as far as they can be stored. -/
theorem scoreRuns_gains_storable (runs : List Run) (stats : RadarStats) (e : Engine Memory) :
    e.Gains ((overMemory registry batchSize pace).scoreRuns rescan radar checks runs stats e).2
      (e.store.faults.storable (e.store.verdicts registry radar checks runs)) := by
  unfold scoreRuns Memory.verdicts
  split
  · exact scoreEach_gains_storable hsteady runs stats e
  · cases checks.compile registry with
    | error err => exact .refl e
    | ok p =>
        have hanswer : Ensures (Engine.At e.store e.flight)
            (matchingIds Memory.storage (runs.map (·.id)) p) _ := ensures_matchingIds
        have hasked := Engine.gains_of_keeps hanswer.keeps
        have hfound := (hanswer e ⟨rfl, rfl⟩).1
        simp only [bind_apply, hfound, Memory.answer]
        by_cases hfails : e.store.faults.matching = true
        · simp only [if_pos hfails]
          exact hasked
        · simp only [if_neg hfails]
          exact hasked.trans (hasked.faults ▸ storeBatch_gains_storable _ runs stats _)

/-- A radar's part of a pass adds what it says. -/
theorem scanRadar_gains_additions (e : Engine Memory) :
    e.Gains ((overMemory registry batchSize pace).scanRadar rescan radar e).2
      (e.store.additions registry batchSize radar) := by
  unfold scanRadar Memory.additions
  cases radar.rule registry with
  | error err => exact .refl e
  | ok rule =>
      have hanswer : Ensures (Engine.At e.store e.flight)
          (Action.fetchUnscored Memory.storage radar rule.scope batchSize) _ :=
        ensures_fetchUnscored
      have hfetched := Engine.gains_of_keeps hanswer.keeps
      have hruns := (hanswer e ⟨rfl, rfl⟩).1
      simp only [applyRule, bind_apply, hruns, Memory.answer]
      by_cases hfails : e.store.faults.fetch.contains radar.id = true
      · simp only [if_pos hfails]
        exact hfetched
      · have hlog := hfetched.log (.analyzing radar.id
          (e.store.unscored radar rule.scope batchSize).length)
        simp only [if_neg hfails, bind_apply]
        split
        · next hempty =>
            have hnothing : e.store.faults.storable (e.store.verdicts registry radar rule.checks
                (e.store.unscored radar rule.scope batchSize)) = [] := by
              rw [List.isEmpty_iff.mp hempty, Memory.verdicts_nil]
              rfl
            rw [hnothing]
            exact hlog
        · -- fetching and logging have left the store as it was
          exact hlog.trans (scoreRuns_gains_storable hsteady _ _ _)

/-- The parts of some radars lead to the store that they say, and leave the guard alone. -/
theorem scanRadars_at (radars : List Radar) (stats : ScanStats) {m : Memory} {flight : Flight}
    {e : Engine Memory} (he : e.At m flight) :
    ((overMemory registry batchSize pace).scanRadars rescan radars stats e).2.At
      (m.scanned registry batchSize radars) flight := by
  induction radars generalizing stats e m with
  | nil => exact he
  | cons radar radars ih =>
      have hgains : e.Gains ((overMemory registry batchSize pace).scanRadar rescan radar e).2 _ :=
        scanRadar_gains_additions hsteady e
      have hat : ((overMemory registry batchSize pace).scanRadar rescan radar e).2.At
          (m.addScores (m.additions registry batchSize radar)) flight :=
        ⟨by rw [hgains.store, he.store], hgains.flight.trans he.flight⟩
      simp only [scanRadars, bind_apply]
      cases ((overMemory registry batchSize pace).scanRadar rescan radar e).1 with
      | ok radarStats => exact ih _ hat
      | error err => exact ih _ ⟨hat.store, hat.flight⟩

/-! ### Passes -/

/-- A pass goes through when the radars can be listed, and leads to the store that they say. -/
theorem pass_at {e : Engine Memory} (hlist : e.store.faults.list = false) :
    (∃ stats, ((overMemory registry batchSize pace).pass rescan e).1 = .ok stats) ∧
      ((overMemory registry batchSize pace).pass rescan e).2.At
        (e.store.scanned registry batchSize e.store.radars) e.flight := by
  obtain ⟨hanswer, hlisted⟩ := ensures_listRadars e ⟨rfl, rfl⟩
  simp only [pass, bind_apply, hanswer, Memory.answer, hlist, Bool.false_eq_true, if_false]
  have hscanned : ((overMemory registry batchSize pace).scanRadars rescan e.store.radars
      { radars := e.store.radars.length } (listRadars Memory.storage e).2).2.At _ _ :=
    scanRadars_at hsteady e.store.radars _ hlisted
  exact ⟨⟨_, rfl⟩, hscanned.store, hscanned.flight⟩

/-- A scan that finds the guard free makes a pass and gives the guard back. -/
theorem scanTo_at (depth : Nat) {e : Engine Memory} (hidle : e.flight = .idle)
    (hlist : e.store.faults.list = false) :
    (∃ stats, ((overMemory registry batchSize pace).scanTo (depth + 1) e).1 =
        .ok (.completed stats)) ∧
      ((overMemory registry batchSize pace).scanTo (depth + 1) e).2.At
        (e.store.scanned registry batchSize e.store.radars) .idle := by
  have hacquire : e.flight.tryAcquire = (true, ⟨true⟩) := by rw [hidle]; rfl
  have hpass : (∃ stats, ((overMemory registry batchSize pace).pass
        ((overMemory registry batchSize pace).scanTo depth) { e with flight := ⟨true⟩ }).1 =
          .ok stats) ∧ _ := pass_at hsteady hlist
  obtain ⟨⟨stats, hstats⟩, hat⟩ := hpass
  simp only [scanTo, guarded, bind_apply, get_apply, hacquire, if_true, modify_apply, pure_apply,
    hstats]
  exact ⟨⟨stats, rfl⟩, hat.store, rfl⟩

end Each

end Scanner

end RunRadar
