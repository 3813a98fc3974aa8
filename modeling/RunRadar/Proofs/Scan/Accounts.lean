import RunRadar.Proofs.Scan.Correctness
import RunRadar.Proofs.Scan.Ledger

/-!
# RunRadar.Proofs.Scan.Accounts

The **report of a pass is what the pass did**. Next to the ledger of a pass, each counter of its
report is a count of the exchanges there (`ScanStats.Reports`), for any storage, which may refuse
any request, and for any evaluators.

The counters of a radar are dropped when its part fails. That loses nothing that was stored,
since a part that fails has stored nothing (`RadarPart.Orderly.failed`).
-/

namespace RunRadar

open RunRadar.Action

/-! ### Parts -/

/-- One radar's part of a pass: what storage was asked for the radar, and its answers. -/
structure RadarPart where
  radar : Radar
  exchanges : List Exchange

namespace RadarPart

/-- The rows that the radar's fetch returned. -/
def rows (part : RadarPart) : List Run := part.exchanges.flatMap Exchange.rows

/-- The results that were to be stored. -/
def insertions (part : RadarPart) : List Score := part.exchanges.flatMap Exchange.insertions

/-- The results that were stored. -/
def stored (part : RadarPart) : List Score := part.exchanges.flatMap Exchange.stored

/-- Whether the part failed: the radar has no rule, the fetch or the question for the whole batch
was refused, or there are rows and their checks, which storage should decide, do not compile. -/
def failed (registry : Registry) (part : RadarPart) : Bool :=
  match part.radar.rule registry with
  | .error _ => true
  | .ok rule =>
    part.exchanges.any Exchange.isRefused ||
      (!part.rows.isEmpty && !rule.checks.needsEvaluator registry &&
        !(rule.checks.compile registry).isOk)

/-- The order that a part keeps. -/
structure Orderly (registry : Registry) (batchSize : Nat) (part : RadarPart) : Prop where
  /-- If there is a fetch, it comes first, and it is the only one. -/
  fetch : part.exchanges = [] ∨ ∃ scope answer later,
    part.exchanges = .fetched part.radar scope batchSize answer :: later ∧
      ∀ x ∈ later, x.isAboutRuns = true
  /-- Results are to be stored for some of the rows, in their order and at most one for each. -/
  insertions : List.SublistForall₂
    (fun score run => score.radar = part.radar.id ∧ score.run = run.id) part.insertions part.rows
  /-- Nothing is stored for a radar whose part fails. -/
  failed : part.failed registry = true → part.insertions = []

end RadarPart

/-- The counters of a radar report what its part did. -/
structure RadarStats.Reports (stats : RadarStats) (part : RadarPart) : Prop where
  fetched : stats.fetched = part.rows.length
  scored : stats.scored = part.stored.length
  passed : stats.passed = part.stored.countP (·.passed)
  errored : stats.scored + stats.errored = part.rows.length

/-- The counters of a batch report on a part in which nothing else is fetched or stored. -/
theorem BatchScored.reports {radar : Radar} {runs : List Run} {xs : List Exchange}
    {stats : RadarStats} {part : RadarPart}
    (h : BatchScored radar runs { fetched := runs.length } xs stats) (hrows : part.rows = runs)
    (hstored : part.stored = xs.flatMap Exchange.stored) : stats.Reports part := by
  obtain ⟨hfetched, hscored, hpassed, herrored⟩ := h.counted
  rw [← hstored] at hscored hpassed
  exact ⟨hrows ▸ hfetched, by simpa using hscored, by simpa using hpassed,
    by simpa [hrows] using herrored⟩

namespace RadarScanned

variable {registry : Registry} {batchSize : Nat} {radar : Radar} {xs : List Exchange}
  {result : Except ScanError RadarStats} {stats : RadarStats} {fault : ScanError}

/-- A part that comes to an error has failed, before anything was to be stored. -/
theorem failed (h : RadarScanned registry batchSize radar xs (.error fault)) :
    RadarPart.failed registry ⟨radar, xs⟩ = true ∧ RadarPart.insertions ⟨radar, xs⟩ = [] := by
  cases h with
  | ruleless hrule => exact ⟨by simp [RadarPart.failed, hrule], rfl⟩
  | unfetched hrule => exact ⟨by simp [RadarPart.failed, hrule, Exchange.isRefused], rfl⟩
  | uncompiled hrule hruns hneeds hcompile =>
    refine ⟨?_, rfl⟩
    simp [RadarPart.failed, hrule, RadarPart.rows, Exchange.rows, hruns, hneeds, hcompile,
      Except.isOk, Except.toBool]
  | unmatched hrule => exact ⟨by simp [RadarPart.failed, hrule, Exchange.isRefused], rfl⟩

/-- A part that comes to counters has not failed, and they report what it did. -/
theorem reports (h : RadarScanned registry batchSize radar xs (.ok stats)) :
    RadarPart.failed registry ⟨radar, xs⟩ = false ∧ stats.Reports ⟨radar, xs⟩ := by
  cases h with
  | empty hrule =>
    exact ⟨by simp [RadarPart.failed, hrule, Exchange.isRefused, RadarPart.rows, Exchange.rows],
      rfl, rfl, rfl, rfl⟩
  | batch hrule hneeds hcompile hscored =>
    refine ⟨?_, hscored.reports ?_ rfl⟩
    · simp [RadarPart.failed, hrule, hneeds, hcompile, Exchange.isRefused, Except.isOk,
        Except.toBool, hscored.any_isRefused]
    · simp [RadarPart.rows, Exchange.rows, hscored.rows_eq_nil]
  | each hrule hneeds hscored =>
    refine ⟨?_, hscored.reports ?_ rfl⟩
    · simp [RadarPart.failed, hrule, hneeds, Exchange.isRefused, hscored.any_isRefused]
    · simp [RadarPart.rows, Exchange.rows, hscored.rows_eq_nil]

/-- If there is a fetch, it comes first, and it is the only one. -/
theorem fetch (h : RadarScanned registry batchSize radar xs result) :
    xs = [] ∨ ∃ scope answer later, xs = .fetched radar scope batchSize answer :: later ∧
      ∀ x ∈ later, x.isAboutRuns = true := by
  have habout : ∀ {runs stats later} {stats' : RadarStats},
      BatchScored radar runs stats later stats' → ∀ x ∈ later, x.isAboutRuns = true :=
    fun h x hx => Exchange.isAboutRuns_of_isAboutRun (h.isAboutRun x hx)
  cases h with
  | ruleless => exact .inl rfl
  | unfetched | empty | uncompiled => exact .inr ⟨_, _, [], rfl, by simp⟩
  | unmatched => exact .inr ⟨_, _, _, rfl, by simp [Exchange.isAboutRuns]⟩
  | batch _ _ _ hscored =>
    exact .inr ⟨_, _, _, rfl, List.forall_mem_cons.mpr ⟨rfl, habout hscored⟩⟩
  | each _ _ hscored => exact .inr ⟨_, _, _, rfl, habout hscored⟩

/-- Results are to be stored for some of the rows, in their order and at most one for each. -/
theorem insertions (h : RadarScanned registry batchSize radar xs result) :
    List.SublistForall₂ (fun score run => score.radar = radar.id ∧ score.run = run.id)
      (RadarPart.insertions ⟨radar, xs⟩) (RadarPart.rows ⟨radar, xs⟩) := by
  cases result with
  | error fault =>
    rw [h.failed.2]
    exact .nil
  | ok stats =>
    cases h with
    | empty => exact .nil
    | batch _ _ _ hscored | each _ _ hscored =>
      simpa [RadarPart.rows, RadarPart.insertions, Exchange.rows, Exchange.insertions,
        hscored.rows_eq_nil] using hscored.insertions

/-- A part keeps the order, whatever it comes to. -/
theorem orderly (h : RadarScanned registry batchSize radar xs result) :
    RadarPart.Orderly registry batchSize ⟨radar, xs⟩ where
  fetch := h.fetch
  insertions := h.insertions
  failed hfailed := by
    cases result with
    | error fault => exact h.failed.2
    | ok stats => simp [h.reports.1] at hfailed

end RadarScanned

/-! ### Passes -/

/-- Only what was to be stored is stored. -/
theorem RadarPart.stored_sublist (part : RadarPart) : part.stored.Sublist part.insertions := by
  rw [stored, insertions]
  induction part.exchanges with
  | nil => exact .slnil
  | cons x xs ih =>
    rw [List.flatMap_cons, List.flatMap_cons]
    refine List.Sublist.append ?_ ih
    cases x with
    | inserted score answer => cases answer <;> simp [Exchange.stored, Exchange.insertions]
    | _ => exact .slnil

namespace ScanStats

/-- The counters of a pass before and after some parts. -/
structure Counted (registry : Registry) (stats : ScanStats) (parts : List RadarPart)
    (stats' : ScanStats) : Prop where
  radars : stats'.radars = stats.radars
  radarsFailed : stats'.radarsFailed = stats.radarsFailed + parts.countP (·.failed registry)
  runsFetched : stats'.runsFetched = stats.runsFetched +
    ((parts.filter (!·.failed registry)).flatMap RadarPart.rows).length
  runsScored : stats'.runsScored = stats.runsScored + (parts.flatMap RadarPart.stored).length
  runsPassed : stats'.runsPassed =
    stats.runsPassed + (parts.flatMap RadarPart.stored).countP (·.passed)
  runsNotPassed : stats'.runsNotPassed =
    stats.runsNotPassed + (parts.flatMap RadarPart.stored).countP (!·.passed)
  runsErrored : stats'.runsScored + stats'.runsErrored + stats.runsFetched =
    stats.runsScored + stats.runsErrored + stats'.runsFetched

namespace Counted

variable {registry : Registry} {stats stats' : ScanStats} {part : RadarPart}
  {parts : List RadarPart}

theorem nil (stats : ScanStats) : Counted registry stats [] stats :=
  ⟨rfl, rfl, rfl, rfl, rfl, rfl, rfl⟩

/-- The counters of a radar whose part did not fail are added. -/
theorem absorb {radarStats : RadarStats} (hpart : part.failed registry = false)
    (hreports : radarStats.Reports part)
    (h : Counted registry (stats.absorb radarStats) parts stats') :
    Counted registry stats (part :: parts) stats' := by
  obtain ⟨hfetched, hscored, hpassed, herrored⟩ := hreports
  have hnotPassed : radarStats.scored - radarStats.passed = part.stored.countP (!·.passed) := by
    have hsplit := List.length_eq_countP_add_countP (·.passed) (l := part.stored)
    simp only [Bool.not_eq_true, Bool.decide_eq_false] at hsplit
    omega
  have hdone : (part :: parts).filter (!·.failed registry) =
      part :: parts.filter (!·.failed registry) := List.filter_cons_of_pos (by simp [hpart])
  constructor
  · exact h.radars
  · rw [h.radarsFailed, List.countP_cons_of_neg (by simp [hpart]), ScanStats.absorb]
  · rw [h.runsFetched, hdone, List.flatMap_cons, List.length_append, ScanStats.absorb, hfetched,
      Nat.add_assoc]
  · rw [h.runsScored, List.flatMap_cons, List.length_append, ScanStats.absorb, hscored,
      Nat.add_assoc]
  · rw [h.runsPassed, List.flatMap_cons, List.countP_append, ScanStats.absorb, hpassed,
      Nat.add_assoc]
  · rw [h.runsNotPassed, List.flatMap_cons, List.countP_append, ScanStats.absorb, hnotPassed,
      Nat.add_assoc]
  · have herrors := h.runsErrored
    simp only [ScanStats.absorb] at herrors
    omega

/-- A radar whose part failed is counted, and nothing of it. -/
theorem failRadar (hpart : part.failed registry = true) (hinsertions : part.insertions = [])
    (h : Counted registry stats.failRadar parts stats') :
    Counted registry stats (part :: parts) stats' := by
  have hstored : part.stored = [] := List.sublist_nil.mp (hinsertions ▸ part.stored_sublist)
  have hdone : (part :: parts).filter (!·.failed registry) =
      parts.filter (!·.failed registry) := List.filter_cons_of_neg (by simp [hpart])
  constructor
  · exact h.radars
  · rw [h.radarsFailed, List.countP_cons_of_pos hpart, ScanStats.failRadar, Nat.add_right_comm,
      Nat.add_assoc]
  · rw [h.runsFetched, hdone, ScanStats.failRadar]
  · rw [h.runsScored, List.flatMap_cons, hstored, List.nil_append, ScanStats.failRadar]
  · rw [h.runsPassed, List.flatMap_cons, hstored, List.nil_append, ScanStats.failRadar]
  · rw [h.runsNotPassed, List.flatMap_cons, hstored, List.nil_append, ScanStats.failRadar]
  · exact h.runsErrored

end Counted

/-- The counters of a pass report what its parts did. -/
structure Reports (registry : Registry) (stats : ScanStats) (parts : List RadarPart) : Prop where
  radars : stats.radars = parts.length
  radarsFailed : stats.radarsFailed = parts.countP (·.failed registry)
  radarsFailed_le : stats.radarsFailed ≤ stats.radars
  runsFetched : stats.runsFetched =
    ((parts.filter (!·.failed registry)).flatMap RadarPart.rows).length
  runsScored : stats.runsScored = (parts.flatMap RadarPart.stored).length
  runsPassed : stats.runsPassed = (parts.flatMap RadarPart.stored).countP (·.passed)
  runsNotPassed : stats.runsNotPassed = (parts.flatMap RadarPart.stored).countP (!·.passed)
  runsErrored : stats.runsFetched = stats.runsScored + stats.runsErrored

/-- What is counted from the start of a pass is what it reports. -/
theorem Counted.reports {registry : Registry} {stats : ScanStats} {parts : List RadarPart}
    {listed : Nat} (h : Counted registry { radars := listed } parts stats)
    (hlisted : listed = parts.length) : stats.Reports registry parts where
  radars := h.radars.trans hlisted
  radarsFailed := by simpa using h.radarsFailed
  radarsFailed_le := by
    rw [h.radars, h.radarsFailed, Nat.zero_add, hlisted]
    exact List.countP_le_length
  runsFetched := by simpa using h.runsFetched
  runsScored := by simpa using h.runsScored
  runsPassed := by simpa using h.runsPassed
  runsNotPassed := by simpa using h.runsNotPassed
  runsErrored := by simpa using h.runsErrored.symm

end ScanStats

namespace Scanner

variable {σ : Type} (scanner : Scanner σ) {rescan : Rescan σ}

/-- The parts of several radars are made one after the other, and each is counted. -/
theorem scanRadars_trades (hquiet : Quiet scanner.storage rescan) (radars : List Radar)
    (stats : ScanStats) {e : Engine σ} (hrunning : e.flight.running = true) :
    ∃ parts : List RadarPart, parts.map RadarPart.radar = radars ∧
      e.Trades scanner.storage (parts.flatMap RadarPart.exchanges)
        (scanner.scanRadars rescan radars stats e).2 ∧
      ScanStats.Counted scanner.registry stats parts
        (scanner.scanRadars rescan radars stats e).1 ∧
      ∀ part ∈ parts, part.Orderly scanner.registry scanner.batchSize := by
  induction radars generalizing stats e with
  | nil => exact ⟨[], rfl, .refl e, .nil stats, by simp⟩
  | cons radar radars ih =>
    obtain ⟨xs, htrades, hscanned⟩ :=
      scanner.scanRadar_trades hquiet hrunning radar
    simp only [scanRadars, bind_apply]
    rcases hresult : scanner.scanRadar rescan radar e with ⟨result, e₁⟩
    rw [hresult] at htrades hscanned
    cases result with
    | ok radarStats =>
      obtain ⟨parts, hradars, hrest, hcounted, horderly⟩ :=
        ih (stats.absorb radarStats) (htrades.flight ▸ hrunning)
      obtain ⟨hpart, hreports⟩ := hscanned.reports
      exact ⟨⟨radar, xs⟩ :: parts, congrArg (radar :: ·) hradars, htrades.trans hrest,
        hcounted.absorb hpart hreports, List.forall_mem_cons.mpr ⟨hscanned.orderly, horderly⟩⟩
    | error fault =>
      have hlog := htrades.log (.radarAborted radar.id fault)
      obtain ⟨parts, hradars, hrest, hcounted, horderly⟩ :=
        ih stats.failRadar (hlog.flight ▸ hrunning)
      obtain ⟨hpart, hinsertions⟩ := hscanned.failed
      exact ⟨⟨radar, xs⟩ :: parts, congrArg (radar :: ·) hradars, hlog.trans hrest,
        hcounted.failRadar hpart hinsertions,
        List.forall_mem_cons.mpr ⟨hscanned.orderly, horderly⟩⟩

/-- Scans that are started during a pass ask nothing of storage. -/
theorem quiet_scanTo (depth : Nat) :
    Quiet scanner.storage (scanner.scanTo depth) := by
  intro e hrunning
  rw [scanTo_of_running scanner depth e hrunning]
  exact (Engine.Trades.refl e).log .alreadyRunning

/-- A pass lists the radars, and then either ends with the error of that or has a part for each of
them. -/
theorem pass_trades (hquiet : Quiet scanner.storage rescan) {e : Engine σ}
    (hrunning : e.flight.running = true) :
    match (scanner.storage.listRadars e.store).1 with
    | .error fault =>
      (scanner.pass rescan e).1 = .error (.storage fault) ∧
        e.Trades scanner.storage [.listed (.error fault)] (scanner.pass rescan e).2
    | .ok radars => ∃ stats parts,
      (scanner.pass rescan e).1 = .ok stats ∧ parts.map RadarPart.radar = radars ∧
        e.Trades scanner.storage (.listed (.ok radars) :: parts.flatMap RadarPart.exchanges)
          (scanner.pass rescan e).2 ∧
        stats.Reports scanner.registry parts ∧
        ∀ part ∈ parts, part.Orderly scanner.registry scanner.batchSize := by
  have hlist := Engine.trades_listRadars scanner.storage e
  have hfirst : (scanner.storage.listRadars e.store).1 = (listRadars scanner.storage e).1 := rfl
  rcases hanswer : listRadars scanner.storage e with ⟨answer, e₁⟩
  rw [hanswer] at hlist hfirst
  rw [hfirst]
  simp only [pass, bind_apply, hanswer]
  cases answer with
  | error fault => exact ⟨rfl, hlist⟩
  | ok radars =>
    obtain ⟨parts, hradars, htrades, hcounted, horderly⟩ := scanner.scanRadars_trades
      hquiet radars { radars := radars.length } (hlist.flight ▸ hrunning)
    exact ⟨_, parts, rfl, hradars, (hlist.trans htrades).log _,
      hcounted.reports (by rw [← hradars, List.length_map]), horderly⟩

/-- With the guard free, it is held during the pass and given back. -/
theorem guarded_of_idle (pass : Action σ (Except ScanError ScanStats)) {e : Engine σ}
    (hidle : e.flight = .idle) :
    guarded pass e = ((pass { e with flight := ⟨true⟩ }).1.map .completed,
      { (pass { e with flight := ⟨true⟩ }).2 with flight := .idle }) := by
  have hacquire : e.flight.tryAcquire = (true, ⟨true⟩) := by rw [hidle]; rfl
  simp only [guarded, bind_apply, get_apply, hacquire, if_true, modify_apply, pure_apply]
  rfl

/-- The report of a scan that finds no other one in progress is what the scan did, whatever storage
answers. If the radars cannot be listed, the scan ends with that error and has asked nothing else.
Otherwise it has a part for each of the radars, and its counters report those. -/
theorem scan_reports_ledger {e : Engine σ} (hidle : e.flight = .idle) :
    match (scanner.storage.listRadars e.store).1 with
    | .error fault =>
      (scanner.scan e).1 = .error (.storage fault) ∧
        e.Trades scanner.storage [.listed (.error fault)] (scanner.scan e).2
    | .ok radars => ∃ stats parts,
      (scanner.scan e).1 = .ok (.completed stats) ∧ parts.map RadarPart.radar = radars ∧
        e.Trades scanner.storage (.listed (.ok radars) :: parts.flatMap RadarPart.exchanges)
          (scanner.scan e).2 ∧
        stats.Reports scanner.registry parts ∧
        ∀ part ∈ parts, part.Orderly scanner.registry scanner.batchSize := by
  have hpass := scanner.pass_trades (scanner.quiet_scanTo 0) (e := { e with flight := ⟨true⟩ }) rfl
  -- the guard is free again behind the pass
  have hfree : ∀ {xs e₁}, Engine.Trades scanner.storage { e with flight := ⟨true⟩ } xs e₁ →
      e.Trades scanner.storage xs { e₁ with flight := .idle } :=
    fun h => ⟨h.store, h.calls, hidle.symm⟩
  rw [scan, scanTo, guarded_of_idle _ hidle]
  dsimp only at hpass ⊢
  cases hanswer : (scanner.storage.listRadars e.store).1 with
  | error fault =>
    rw [hanswer] at hpass
    obtain ⟨hresult, htrades⟩ := hpass
    exact ⟨by rw [hresult]; rfl, hfree htrades⟩
  | ok radars =>
    rw [hanswer] at hpass
    obtain ⟨stats, parts, hresult, hradars, htrades, hreports, horderly⟩ := hpass
    exact ⟨stats, parts, by rw [hresult]; rfl, hradars, hfree htrades, hreports, horderly⟩

/-- One radar stores a result, another one fetches a run whose result is refused, and the third one
has a malformed scope. -/
theorem scan_reports_refused_insertion :
    let registry := Registry.ofList [modelFilter]
    let radar : Radar := ⟨.nil, .nil, none, none, (Tree.identity .and).toJson,
      (Tree.leafOf "model" .null).toJson, ⟨0, 0, by decide⟩, none⟩
    let other : Radar := { radar with id := ⟨1⟩, project := ⟨1⟩ }
    let malformed : Radar := { radar with id := ⟨2⟩, view := .null }
    let run := ({} : VirtualRun).runUntil ⟨0, 0, by decide⟩ none
    let e := Engine.start
      { radars := [radar, other, malformed],
        runs := [run, { run with id := ⟨1⟩, project := ⟨1⟩ }],
        faults := { insert := [⟨1⟩] } }
    let stats : ScanStats := ⟨3, 1, 2, 1, 1, 0, 1⟩
    e.flight = .idle ∧ ((overMemory registry 10 .atOnce).scan e).1 = .ok (.completed stats) ∧
      ∃ parts : List RadarPart, parts.map RadarPart.radar = [radar, other, malformed] ∧
        stats.Reports registry parts ∧ ∀ part ∈ parts, part.Orderly registry 10 := by
  intro registry radar other malformed run e stats
  have hscan : ((overMemory registry 10 .atOnce).scan e).1 = .ok (.completed stats) := by
    decide +kernel
  obtain ⟨_, parts, hresult, hradars, -, hreports, horderly⟩ :=
    scan_reports_ledger (overMemory registry 10 .atOnce) (e := e) rfl
  cases hresult.symm.trans hscan
  exact ⟨rfl, hscan, parts, hradars, hreports, horderly⟩

end Scanner

end RunRadar
