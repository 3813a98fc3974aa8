import RunRadar.Proofs.Engine.Exchange
import RunRadar.Proofs.Scan.Pass

/-!
# RunRadar.Proofs.Scan.Ledger

The **ledger of a pass**: what it asks of storage for one radar after the other, next to what the
radar's part of the pass comes to. Storage may answer anything, and evaluators may do anything.

All ways through a radar's part are listed once (`RadarScanned`). Whether the part fails is
settled before anything is stored: the fetch, the condition of the checks and the question for the
whole batch come first, and from then on a failure is about one run only.
-/

namespace RunRadar

open RunRadar.Action

/-! ### Reading ledgers -/

namespace Exchange

/-- The rows that were fetched. -/
def rows : Exchange → List Run
  | .fetched _ _ _ (.ok runs) => runs
  | _ => []

/-- The result that was to be stored, if any. -/
def insertions : Exchange → List Score
  | .inserted score _ => [score]
  | _ => []

/-- The result that was stored, if any. -/
def stored : Exchange → List Score
  | .inserted score (.ok ()) => [score]
  | _ => []

/-- Whether a question about all runs of a radar, or about the whole batch, was refused. -/
def isRefused : Exchange → Bool
  | .fetched _ _ _ (.error _) => true
  | .matched _ _ (.error _) => true
  | _ => false

/-- Whether an exchange is about a single run. -/
def isAboutRun : Exchange → Bool
  | .tested _ _ _ => true
  | .inserted _ _ => true
  | _ => false

/-- Whether an exchange is about runs that were fetched before. -/
def isAboutRuns : Exchange → Bool
  | .matched _ _ _ => true
  | x => x.isAboutRun

variable {x : Exchange} {tests : List Exchange}

/-- Asking about single runs is no attempt to store anything. -/
theorem insertions_tests (h : ∀ x ∈ tests, x.isTest = true) : tests.flatMap insertions = [] :=
  List.flatMap_eq_nil_iff.mpr fun x hx => by
    have htest := h x hx
    cases x <;> first | rfl | cases htest

theorem stored_tests (h : ∀ x ∈ tests, x.isTest = true) : tests.flatMap stored = [] :=
  List.flatMap_eq_nil_iff.mpr fun x hx => by
    have htest := h x hx
    cases x <;> first | rfl | cases htest

theorem isAboutRun_of_isTest (h : x.isTest = true) : x.isAboutRun = true := by
  cases x <;> first | rfl | cases h

theorem isAboutRuns_of_isAboutRun (h : x.isAboutRun = true) : x.isAboutRuns = true := by
  cases x <;> first | rfl | cases h

theorem rows_of_isAboutRun (h : x.isAboutRun = true) : x.rows = [] := by
  cases x <;> first | rfl | cases h

theorem isRefused_of_isAboutRun (h : x.isAboutRun = true) : x.isRefused = false := by
  cases x <;> first | rfl | cases h

end Exchange

/-! ### Batches -/

/-- A batch of runs is gone through, with the counters before and after. Each run may be asked
about; then its result is stored, or storing it is refused, or it has no verdict. -/
inductive BatchScored (radar : Radar) :
    List Run → RadarStats → List Exchange → RadarStats → Prop
  | done (stats : RadarStats) : BatchScored radar [] stats [] stats
  | stored {run : Run} {runs : List Run} {stats stats' : RadarStats} {tests xs : List Exchange}
    {score : Score} (htests : ∀ x ∈ tests, x.isTest = true) (hradar : score.radar = radar.id)
    (hrun : score.run = run.id)
    (hrest : BatchScored radar runs (stats.record score.passed) xs stats') :
    BatchScored radar (run :: runs) stats (tests ++ .inserted score (.ok ()) :: xs) stats'
  | refused {run : Run} {runs : List Run} {stats stats' : RadarStats}
    {tests xs : List Exchange} {score : Score} {fault : StoreError}
    (htests : ∀ x ∈ tests, x.isTest = true) (hradar : score.radar = radar.id)
    (hrun : score.run = run.id) (hrest : BatchScored radar runs stats.fail xs stats') :
    BatchScored radar (run :: runs) stats (tests ++ .inserted score (.error fault) :: xs) stats'
  | unscored {run : Run} {runs : List Run} {stats stats' : RadarStats}
    {tests xs : List Exchange} (htests : ∀ x ∈ tests, x.isTest = true)
    (hrest : BatchScored radar runs stats.fail xs stats') :
    BatchScored radar (run :: runs) stats (tests ++ xs) stats'

namespace BatchScored

variable {radar : Radar} {runs : List Run} {stats stats' : RadarStats} {xs : List Exchange}

/-- Nothing is asked but about single runs. -/
theorem isAboutRun (h : BatchScored radar runs stats xs stats') :
    ∀ x ∈ xs, x.isAboutRun = true := by
  induction h with
  | done => exact List.forall_mem_nil _
  | stored htests _ _ _ ih | refused htests _ _ _ ih =>
    exact List.forall_mem_append.mpr ⟨fun x hx => Exchange.isAboutRun_of_isTest (htests x hx),
      List.forall_mem_cons.mpr ⟨rfl, ih⟩⟩
  | unscored htests _ ih =>
    exact List.forall_mem_append.mpr
      ⟨fun x hx => Exchange.isAboutRun_of_isTest (htests x hx), ih⟩

theorem rows_eq_nil (h : BatchScored radar runs stats xs stats') :
    xs.flatMap Exchange.rows = [] :=
  List.flatMap_eq_nil_iff.mpr fun x hx => Exchange.rows_of_isAboutRun (h.isAboutRun x hx)

theorem any_isRefused (h : BatchScored radar runs stats xs stats') :
    xs.any Exchange.isRefused = false :=
  List.any_eq_false.mpr fun x hx => by
    simp [Exchange.isRefused_of_isAboutRun (h.isAboutRun x hx)]

/-- The results that were to be stored belong to some of the runs, in their order and at most one
to each. -/
theorem insertions (h : BatchScored radar runs stats xs stats') :
    List.SublistForall₂ (fun score run => score.radar = radar.id ∧ score.run = run.id)
      (xs.flatMap Exchange.insertions) runs := by
  induction h with
  | done => exact .nil
  | stored htests hradar hrun _ ih | refused htests hradar hrun _ ih =>
    rw [List.flatMap_append, Exchange.insertions_tests htests]
    exact .cons ⟨hradar, hrun⟩ ih
  | unscored htests _ ih =>
    rw [List.flatMap_append, Exchange.insertions_tests htests]
    exact .cons_right ih

/-- The counters count the runs, and the results that were stored. -/
structure Counted (runs : List Run) (stored : List Score) (stats stats' : RadarStats) : Prop where
  fetched : stats'.fetched = stats.fetched
  scored : stats'.scored = stats.scored + stored.length
  passed : stats'.passed = stats.passed + stored.countP (·.passed)
  errored : stats'.scored + stats'.errored = stats.scored + stats.errored + runs.length

/-- Counting a run with a stored result, and going on from there. -/
theorem Counted.record {stored : List Score} {score : Score} (run : Run)
    (h : Counted runs stored (stats.record score.passed) stats') :
    Counted (run :: runs) (score :: stored) stats stats' where
  fetched := h.fetched
  scored := by simp only [h.scored, RadarStats.record, List.length_cons]; omega
  passed := by
    rw [h.passed, RadarStats.record, List.countP_cons]
    cases score.passed <;> simp; omega
  errored := by simp only [h.errored, RadarStats.record, List.length_cons]; omega

/-- Counting a run without one, and going on from there. -/
theorem Counted.fail {stored : List Score} (run : Run)
    (h : Counted runs stored stats.fail stats') : Counted (run :: runs) stored stats stats' where
  fetched := h.fetched
  scored := h.scored
  passed := h.passed
  errored := by simp only [h.errored, RadarStats.fail, List.length_cons]; omega

theorem counted (h : BatchScored radar runs stats xs stats') :
    Counted runs (xs.flatMap Exchange.stored) stats stats' := by
  induction h with
  | done => exact ⟨rfl, rfl, rfl, rfl⟩
  | stored htests _ _ _ ih =>
    rw [List.flatMap_append, Exchange.stored_tests htests]
    exact ih.record _
  | refused htests _ _ _ ih | unscored htests _ ih =>
    rw [List.flatMap_append, Exchange.stored_tests htests]
    exact ih.fail _

end BatchScored

namespace Scanner

variable {σ : Type} (scanner : Scanner σ) (radar : Radar)

/-- A batch that is stored at once is gone through. -/
theorem storeBatch_trades (matched : List Uuid) (runs : List Run) (stats : RadarStats)
    (e : Engine σ) :
    ∃ xs, e.Trades scanner.storage xs (scanner.storeBatch radar matched runs stats e).2 ∧
      BatchScored radar runs stats xs (scanner.storeBatch radar matched runs stats e).1 := by
  induction runs generalizing stats e with
  | nil => exact ⟨[], .refl e, .done stats⟩
  | cons run runs ih =>
    have hinsert := Engine.trades_insertResult scanner.storage
      ⟨radar.id, run.id, matched.contains run.id, []⟩ e
    simp only [storeBatch, bind_apply]
    rcases hanswer : insertResult scanner.storage ⟨radar.id, run.id, matched.contains run.id, []⟩ e
      with ⟨answer, e₁⟩
    rw [hanswer] at hinsert
    cases answer with
    | ok _ =>
      obtain ⟨xs, htrades, hscored⟩ := ih (stats.record (matched.contains run.id))
        (Action.log (.runScored run.id (matched.contains run.id)) e₁).2
      exact ⟨_, (hinsert.log _).trans htrades, .stored (List.forall_mem_nil _) rfl rfl hscored⟩
    | error fault =>
      obtain ⟨xs, htrades, hscored⟩ := ih stats.fail
        (Action.log (.resultNotStored radar.id run.id fault) e₁).2
      exact ⟨_, (hinsert.log _).trans htrades, .refused (List.forall_mem_nil _) rfl rfl hscored⟩

section Each

/-- The interpreter of a pass. -/
abbrev interpreter (rescan : Rescan σ) : Interpreter σ :=
  ⟨scanner.registry, scanner.storage, rescan⟩

variable {rescan : Rescan σ} (hquiet : Quiet scanner.storage rescan) (checks : Tree)

include hquiet

/-- A run is scored when its result is stored last of all. Otherwise it is left without one, and
either it had no verdict or storing the result was refused. -/
theorem scoreRun_trades (run : Run) {e : Engine σ} (hrunning : e.flight.running = true) :
    ∃ tests, (∀ x ∈ tests, x.isTest = true) ∧
      match scanner.scoreRun (scanner.interpreter rescan) radar checks run e with
      | (.ok passed, e') => ∃ results,
        e.Trades scanner.storage
          (tests ++ [.inserted ⟨radar.id, run.id, passed, results⟩ (.ok ())]) e'
      | (.error _, e') => e.Trades scanner.storage tests e' ∨ ∃ passed results fault,
        e.Trades scanner.storage
          (tests ++ [.inserted ⟨radar.id, run.id, passed, results⟩ (.error fault)]) e' := by
  obtain ⟨tests, htrades, htests⟩ :=
    (scanner.interpreter rescan).tests_runChecksAt hquiet hrunning scanner.pace run checks
  refine ⟨tests, htests, ?_⟩
  simp only [scoreRun, bind_apply]
  rcases hchecks : (scanner.interpreter rescan).runChecksAt scanner.pace run checks e
    with ⟨verdict, e₁⟩
  rw [hchecks] at htrades
  cases verdict with
  | error fault => exact .inl htrades
  | ok outcome =>
    have hinsert := htrades.trans (Engine.trades_insertResult _
      ⟨radar.id, run.id, outcome.passed, outcome.results⟩ e₁)
    simp only [bind_apply]
    rcases hanswer : insertResult scanner.storage
      ⟨radar.id, run.id, outcome.passed, outcome.results⟩ e₁ with ⟨answer, e₂⟩
    rw [hanswer] at hinsert
    cases answer with
    | ok _ => exact ⟨_, hinsert⟩
    | error fault => exact .inr ⟨_, _, fault, hinsert⟩

/-- A batch whose runs are evaluated one by one is gone through. -/
theorem scoreEach_trades (runs : List Run) (stats : RadarStats) {e : Engine σ}
    (hrunning : e.flight.running = true) :
    let scored := scanner.scoreEach (scanner.interpreter rescan) radar checks runs stats e
    ∃ xs, e.Trades scanner.storage xs scored.2 ∧ BatchScored radar runs stats xs scored.1 := by
  induction runs generalizing stats e with
  | nil => exact ⟨[], .refl e, .done stats⟩
  | cons run runs ih =>
    obtain ⟨tests, htests, hrun⟩ :=
      scoreRun_trades scanner radar hquiet checks run hrunning
    simp only [scoreEach, bind_apply]
    rcases hresult : scanner.scoreRun (scanner.interpreter rescan) radar checks run e with
      ⟨result, e₁⟩
    rw [hresult] at hrun
    cases result with
    | ok passed =>
      obtain ⟨results, htrades⟩ := hrun
      have hlog := htrades.log (.runScored run.id passed)
      obtain ⟨xs, hrest, hscored⟩ := ih (stats.record passed) (hlog.flight ▸ hrunning)
      refine ⟨_, hlog.trans hrest, ?_⟩
      rw [List.append_assoc]
      exact .stored htests rfl rfl hscored
    | error fault =>
      rcases hrun with htrades | ⟨passed, results, fault', htrades⟩
      · have hlog := htrades.log (.runNotScored radar.id run.id fault)
        obtain ⟨xs, hrest, hscored⟩ := ih stats.fail (hlog.flight ▸ hrunning)
        exact ⟨_, hlog.trans hrest, .unscored htests hscored⟩
      · have hlog := htrades.log (.runNotScored radar.id run.id fault)
        obtain ⟨xs, hrest, hscored⟩ := ih stats.fail (hlog.flight ▸ hrunning)
        refine ⟨_, hlog.trans hrest, ?_⟩
        rw [List.append_assoc]
        exact .refused htests rfl rfl hscored

end Each

end Scanner

/-! ### Radars -/

/-- The ways through one radar's part of a pass: what is asked of storage, and what the part comes
to. -/
inductive RadarScanned (registry : Registry) (batchSize : Nat) (radar : Radar) :
    List Exchange → Except ScanError RadarStats → Prop
  | ruleless {fault : ScanError} (hrule : radar.rule registry = .error fault) :
    RadarScanned registry batchSize radar [] (.error fault)
  | unfetched {rule : Rule} {fault : StoreError} (hrule : radar.rule registry = .ok rule) :
    RadarScanned registry batchSize radar
      [.fetched radar rule.scope batchSize (.error fault)] (.error (.storage fault))
  | empty {rule : Rule} (hrule : radar.rule registry = .ok rule) :
    RadarScanned registry batchSize radar [.fetched radar rule.scope batchSize (.ok [])] (.ok {})
  | uncompiled {rule : Rule} {runs : List Run} {fault : CompileError}
    (hrule : radar.rule registry = .ok rule) (hruns : runs ≠ [])
    (hneeds : rule.checks.needsEvaluator registry = false)
    (hcompile : rule.checks.compile registry = .error fault) :
    RadarScanned registry batchSize radar
      [.fetched radar rule.scope batchSize (.ok runs)] (.error (.checks radar.id fault))
  | unmatched {rule : Rule} {runs : List Run} {p : Predicate} {fault : StoreError}
    (hrule : radar.rule registry = .ok rule) (hruns : runs ≠ [])
    (hneeds : rule.checks.needsEvaluator registry = false)
    (hcompile : rule.checks.compile registry = .ok p) :
    RadarScanned registry batchSize radar
      [.fetched radar rule.scope batchSize (.ok runs),
       .matched (runs.map (·.id)) p (.error fault)] (.error (.storage fault))
  | batch {rule : Rule} {runs : List Run} {p : Predicate} {matched : List Uuid}
    {xs : List Exchange} {stats : RadarStats}
    (hrule : radar.rule registry = .ok rule)
    (hneeds : rule.checks.needsEvaluator registry = false)
    (hcompile : rule.checks.compile registry = .ok p)
    (hscored : BatchScored radar runs { fetched := runs.length } xs stats) :
    RadarScanned registry batchSize radar
      (.fetched radar rule.scope batchSize (.ok runs) ::
        .matched (runs.map (·.id)) p (.ok matched) :: xs) (.ok stats)
  | each {rule : Rule} {runs : List Run} {xs : List Exchange} {stats : RadarStats}
    (hrule : radar.rule registry = .ok rule)
    (hneeds : rule.checks.needsEvaluator registry = true)
    (hscored : BatchScored radar runs { fetched := runs.length } xs stats) :
    RadarScanned registry batchSize radar
      (.fetched radar rule.scope batchSize (.ok runs) :: xs) (.ok stats)

namespace Scanner

variable {σ : Type} (scanner : Scanner σ) {radar : Radar} {rescan : Rescan σ}

section Radars

variable (hquiet : Quiet scanner.storage rescan) {e : Engine σ}
  (hrunning : e.flight.running = true)

include hquiet hrunning

/-- Scoring a batch is the rest of a way that begins with fetching it. -/
theorem scoreRuns_trades {rule : Rule} (hrule : radar.rule scanner.registry = .ok rule)
    {runs : List Run} (hruns : runs ≠ []) :
    ∃ xs,
      e.Trades scanner.storage xs
        (scanner.scoreRuns rescan radar rule.checks runs { fetched := runs.length } e).2 ∧
      RadarScanned scanner.registry scanner.batchSize radar
        (.fetched radar rule.scope scanner.batchSize (.ok runs) :: xs)
        (scanner.scoreRuns rescan radar rule.checks runs { fetched := runs.length } e).1 := by
  unfold scoreRuns
  split
  · next hneeds =>
    obtain ⟨xs, htrades, hscored⟩ := scoreEach_trades scanner radar hquiet rule.checks runs
      { fetched := runs.length } hrunning
    exact ⟨xs, htrades, .each hrule hneeds hscored⟩
  · next hneeds =>
    rw [Bool.not_eq_true] at hneeds
    cases hcompile : rule.checks.compile scanner.registry with
    | error fault => exact ⟨[], .refl e, .uncompiled hrule hruns hneeds hcompile⟩
    | ok p =>
      have hmatch := Engine.trades_matchingIds scanner.storage (runs.map (·.id)) p e
      rcases hanswer : matchingIds scanner.storage (runs.map (·.id)) p e with ⟨answer, e₁⟩
      rw [hanswer] at hmatch
      simp only [bind_apply, hanswer]
      cases answer with
      | error fault => exact ⟨_, hmatch, .unmatched hrule hruns hneeds hcompile⟩
      | ok matched =>
        obtain ⟨xs, htrades, hscored⟩ := storeBatch_trades scanner radar
          matched runs { fetched := runs.length } e₁
        exact ⟨_, hmatch.trans htrades, .batch hrule hneeds hcompile hscored⟩

/-- A radar's part of a pass takes one of its ways. -/
theorem scanRadar_trades (radar : Radar) :
    ∃ xs, e.Trades scanner.storage xs (scanner.scanRadar rescan radar e).2 ∧
      RadarScanned scanner.registry scanner.batchSize radar xs
        (scanner.scanRadar rescan radar e).1 := by
  unfold scanRadar
  cases hrule : radar.rule scanner.registry with
  | error fault => exact ⟨[], .refl e, .ruleless hrule⟩
  | ok rule =>
    have hfetch := Engine.trades_fetchUnscored scanner.storage radar rule.scope
      scanner.batchSize e
    simp only [applyRule, bind_apply]
    rcases hanswer : fetchUnscored scanner.storage radar rule.scope scanner.batchSize e
      with ⟨answer, e₁⟩
    rw [hanswer] at hfetch
    cases answer with
    | error fault => exact ⟨_, hfetch, .unfetched hrule⟩
    | ok runs =>
      have hlog := hfetch.log (.analyzing radar.id runs.length)
      simp only [bind_apply]
      cases runs with
      | nil => exact ⟨_, hlog, .empty hrule⟩
      | cons run runs =>
        obtain ⟨xs, htrades, hscanned⟩ := scoreRuns_trades scanner hquiet
          (hlog.flight ▸ hrunning) hrule (List.cons_ne_nil run runs)
        exact ⟨_, hlog.trans htrades, hscanned⟩

end Radars

end Scanner

end RunRadar
