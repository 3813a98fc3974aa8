import Mathlib.Logic.Relation
import RunRadar.Proofs.Scan.Accounts

/-!
# RunRadar.Proofs.Scan.SingleFlight

**One pass at a time**, and the guard always comes back.

The guard alone is looked at first, with callers that take permits and give them back in any order:
there is at most one permit, and the guard is taken exactly while there is one (`Flights.Single`).

Then a pass is taken apart into the steps that it is made of (`Scanner.Step`): requests to storage,
events for the log, consultations, and scans that evaluators start. Between the steps others may
start scans too. No step gives the guard back, so whoever starts a scan at any point of a pass is
refused, and it is for the scan that has taken the guard to give it back at its end, whatever
storage and evaluators did meanwhile.
-/

namespace RunRadar

open RunRadar.Action

/-! ### Callers -/

namespace Flights

/-- At most one permit is held, and the guard is taken while one is. -/
structure Single (s : Flights) : Prop where
  one : s.holders.length ≤ 1
  running : s.flight.running = true ↔ s.holders ≠ []

theorem single_idle : idle.Single := ⟨Nat.zero_le 1, by simp [idle, Flight.idle]⟩

variable {s : Flights} (h : s.Single)

include h

/-- A permit is handed out when nobody holds one. -/
theorem Single.acquire_iff (caller : Nat) :
    (s.move (.acquire caller)).1 = true ↔ s.holders = [] := by
  have hrunning := h.running
  cases hflight : s.flight.running with
  | true =>
    rw [hflight] at hrunning
    have hheld : s.holders ≠ [] := hrunning.mp rfl
    simp [move, Flight.tryAcquire, hflight, hheld]
  | false =>
    rw [hflight] at hrunning
    have hnobody : s.holders = [] := by simpa using hrunning
    simp [move, Flight.tryAcquire, hflight, hnobody]

/-- One move leaves at most one permit, and the guard taken while there is one. -/
theorem Single.move (m : FlightMove) : (s.move m).2.Single := by
  obtain ⟨hone, hrunning⟩ := h
  cases m with
  | acquire caller =>
    cases hflight : s.flight.running with
    | true =>
      -- the caller is sent away
      have hsame : (s.move (.acquire caller)).2 = s := by
        simp [Flights.move, Flight.tryAcquire, hflight]
      rw [hsame]
      exact ⟨hone, hrunning⟩
    | false =>
      rw [hflight] at hrunning
      have hnobody : s.holders = [] := by simpa using hrunning
      have htaken : (s.move (.acquire caller)).2 = ⟨⟨true⟩, [caller]⟩ := by
        simp [Flights.move, Flight.tryAcquire, hflight, hnobody]
      rw [htaken]
      exact ⟨Nat.le_refl 1, by simp⟩
  | drop caller =>
    by_cases hheld : s.holders.contains caller = true
    · -- the caller's permit is the only one
      have honly : s.holders = [caller] := by
        rw [List.contains_iff_mem] at hheld
        obtain ⟨other, hother⟩ := List.length_eq_one_iff.mp
          (Nat.le_antisymm hone (List.length_pos_of_mem hheld))
        rw [hother, List.mem_singleton] at hheld
        rw [hother, hheld]
      have hfree : (s.move (.drop caller)).2 = idle := by
        simp [Flights.move, honly, Flight.release, idle, Flight.idle]
      rw [hfree]
      exact single_idle
    · have hsame : (s.move (.drop caller)).2 = s := by
        rw [Flights.move, if_neg hheld]
      rw [hsame]
      exact ⟨hone, hrunning⟩

/-- So do any number of moves. -/
theorem Single.moves (ms : List FlightMove) : (s.moves ms).Single := by
  induction ms generalizing s with
  | nil => exact h
  | cons m ms ih => exact ih (h.move m)

end Flights

namespace Scanner

variable {σ : Type} (scanner : Scanner σ)

/-! ### Steps of a pass -/

/-- What can happen to an engine next while a pass is in progress. -/
inductive Step (e : Engine σ) : Engine σ → Prop
  | request {x : Exchange} {s : σ} (h : x.Happens scanner.storage e.store s) :
    Step e { e with store := s, calls := e.calls ++ [x.call] }
  | log (event : LogEvent) : Step e (Action.log event e).2
  | consult (filter : String) (run : Uuid) :
    Step e { e with
      calls := e.calls ++ [.consult filter run], consultations := e.consultations + 1 }
  /-- An evaluator starts a scan, and what it came to is put on record. -/
  | rescan (depth : Nat) :
    Step e (Action.call (.rescanned e.flight.running (scanner.scanTo depth e).1)
      (scanner.scanTo depth e).2).2
  /-- Somebody else starts a scan. -/
  | scan (depth : Nat) : Step e (scanner.scanTo depth e).2

/-- What can become of an engine while a pass is in progress. -/
abbrev Reaches : Engine σ → Engine σ → Prop := Relation.ReflTransGen scanner.Step

variable {scanner}

/-- From one engine to another, the guard was never given back, and scans that were started were
refused. -/
structure Refused (e e' : Engine σ) : Prop where
  running : e'.flight.running = true
  calls : ∃ made, e'.calls = e.calls ++ made ∧
    ∀ running report, .rescanned running report ∈ made → running = true ∧ report = .ok .skipped

/-- No step gives the guard back or lets a scan in. -/
theorem Refused.step {e e₁ e₂ : Engine σ} (h : Refused e e₁) (hstep : scanner.Step e₁ e₂) :
    Refused e e₂ := by
  obtain ⟨hrunning, made, hmade, hrefused⟩ := h
  cases hstep with
  | @request x s hx =>
    refine ⟨hrunning, made ++ [x.call], by rw [hmade, List.append_assoc], ?_⟩
    intro running report hmem
    rcases List.mem_append.mp hmem with hold | hnew
    · exact hrefused running report hold
    · cases x <;> cases List.mem_singleton.mp hnew
  | log event => exact ⟨hrunning, made, hmade, hrefused⟩
  | consult filter run =>
    refine ⟨hrunning, made ++ [.consult filter run], by rw [hmade, List.append_assoc], ?_⟩
    intro running report hmem
    rcases List.mem_append.mp hmem with hold | hnew
    · exact hrefused running report hold
    · cases List.mem_singleton.mp hnew
  | rescan depth =>
    rw [scanTo_of_running scanner depth e₁ hrunning]
    refine ⟨hrunning, made ++ [.rescanned e₁.flight.running (.ok .skipped)],
      by rw [call_apply, hmade, List.append_assoc], ?_⟩
    intro running report hmem
    rcases List.mem_append.mp hmem with hold | hnew
    · exact hrefused running report hold
    · cases List.mem_singleton.mp hnew
      exact ⟨hrunning, rfl⟩
  | scan depth =>
    rw [scanTo_of_running scanner depth e₁ hrunning]
    exact ⟨hrunning, made, hmade, hrefused⟩

/-- At no point of a pass is the guard free, or a scan let in. -/
theorem Reaches.refused {e e' : Engine σ} (h : scanner.Reaches e e')
    (hrunning : e.flight.running = true) : Refused e e' := by
  induction h with
  | refl => exact ⟨hrunning, [], by simp, by simp⟩
  | tail _ hstep ih => exact ih.step hstep

/-! ### Actions made of steps -/

variable (scanner) in
/-- Whether an action is made of steps of a pass. -/
def Stepwise {α : Type} (a : Action σ α) : Prop := ∀ e, Keeps (scanner.Reaches e) a

theorem stepwise_pure {α : Type} (x : α) : scanner.Stepwise (pure x) := fun _ => keeps_pure x

theorem Stepwise.bind {α β : Type} {a : Action σ α} {f : α → Action σ β}
    (ha : scanner.Stepwise a) (hf : ∀ x, scanner.Stepwise (f x)) : scanner.Stepwise (a >>= f) :=
  fun e => (ha e).bind fun x => hf x e

theorem stepwise_log (event : LogEvent) : scanner.Stepwise (Action.log event) :=
  fun _ _ he => he.tail (.log event)

/-- A request is one step. -/
theorem stepwise_recorded {α : Type} {step : StoreStep σ α} {entry : Except StoreError α → Call}
    (exchange : Except StoreError α → Exchange)
    (hcall : ∀ answer, (exchange answer).call = entry answer)
    (hhappens : ∀ s, (exchange (step s).1).Happens scanner.storage s (step s).2) :
    scanner.Stepwise (recorded step entry) := by
  intro e e₁ he
  rw [recorded_apply, ← hcall]
  exact he.tail (.request (hhappens e₁.store))

theorem stepwise_runMatches (run : Run) (p : Predicate) :
    scanner.Stepwise (runMatches scanner.storage run p) :=
  stepwise_recorded (.tested run p) (fun _ => rfl) (fun _ => rfl)

theorem stepwise_insertResult (score : Score) :
    scanner.Stepwise (insertResult scanner.storage score) :=
  stepwise_recorded (.inserted score) (fun _ => rfl) (fun _ => rfl)

section Evaluating

variable (depth : Nat)

/-- However many scans an evaluator starts, each of them is one step. -/
theorem stepwise_follow (c : Consultation) :
    scanner.Stepwise ((scanner.interpreter (scanner.scanTo depth)).follow c) := by
  induction c with
  | answer result => exact stepwise_pure _
  | rescan next ih => exact fun e _ he => ih _ e _ (he.tail (.rescan depth))

theorem stepwise_consult (evaluate : Evaluator) (run : Run) (l : Leaf) :
    scanner.Stepwise ((scanner.interpreter (scanner.scanTo depth)).consult evaluate run l) :=
  fun e _ he => stepwise_follow depth _ e _ (he.tail (.consult l.id run.id))

/-- A leaf is a request, or a consultation. -/
theorem stepwise_evaluateLeaf (run : Run) (l : Leaf) :
    scanner.Stepwise ((scanner.interpreter (scanner.scanTo depth)).evaluateLeaf run l) :=
  fun e => Interpreter.keeps_evaluateLeaf_of (fun p => stepwise_runMatches run p e)
    fun _ evaluate _ _ _ => stepwise_consult depth evaluate run l e

/-- Checks are made of the steps of their leaves. -/
theorem stepwise_runChecksAt (pace : Pace) (run : Run) (checks : Tree) :
    scanner.Stepwise
      ((scanner.interpreter (scanner.scanTo depth)).runChecksAt pace run checks) :=
  fun e => Interpreter.keeps_runChecksAt fun l _ => stepwise_evaluateLeaf depth run l e

end Evaluating

section Passes

variable (depth : Nat) (radar : Radar)

theorem stepwise_storeBatch (matched : List Uuid) (runs : List Run) (stats : RadarStats) :
    scanner.Stepwise (scanner.storeBatch radar matched runs stats) := by
  induction runs generalizing stats with
  | nil => exact stepwise_pure _
  | cons run runs ih =>
    refine (stepwise_insertResult _).bind fun r => ?_
    cases r with
    | ok _ => exact (stepwise_log _).bind fun _ => ih _
    | error fault => exact (stepwise_log _).bind fun _ => ih _

theorem stepwise_scoreRun (checks : Tree) (run : Run) :
    scanner.Stepwise
      (scanner.scoreRun (scanner.interpreter (scanner.scanTo depth)) radar checks run) := by
  refine (stepwise_runChecksAt depth scanner.pace run checks).bind fun r => ?_
  cases r with
  | error err => exact stepwise_pure _
  | ok outcome =>
    refine (stepwise_insertResult _).bind fun r => ?_
    cases r <;> exact stepwise_pure _

theorem stepwise_scoreEach (checks : Tree) (runs : List Run) (stats : RadarStats) :
    scanner.Stepwise
      (scanner.scoreEach (scanner.interpreter (scanner.scanTo depth)) radar checks runs stats) := by
  induction runs generalizing stats with
  | nil => exact stepwise_pure _
  | cons run runs ih =>
    refine (stepwise_scoreRun depth radar checks run).bind fun r => ?_
    cases r with
    | ok passed => exact (stepwise_log _).bind fun _ => ih _
    | error err => exact (stepwise_log _).bind fun _ => ih _

theorem stepwise_scoreRuns (checks : Tree) (runs : List Run) (stats : RadarStats) :
    scanner.Stepwise (scanner.scoreRuns (scanner.scanTo depth) radar checks runs stats) := by
  unfold scoreRuns
  split
  · exact (stepwise_scoreEach depth radar checks runs stats).bind fun _ => stepwise_pure _
  · split
    · exact stepwise_pure _
    · have hmatch : ∀ p, scanner.Stepwise (matchingIds scanner.storage (runs.map (·.id)) p) :=
        fun p => stepwise_recorded (.matched _ p) (fun _ => rfl) (fun _ => rfl)
      refine (hmatch _).bind fun r => ?_
      cases r with
      | error fault => exact stepwise_pure _
      | ok matched =>
        exact (stepwise_storeBatch radar matched runs stats).bind fun _ => stepwise_pure _

/-- A radar that cannot be scanned takes no step, and others are fetched for and scored. -/
theorem stepwise_scanRadar : scanner.Stepwise (scanner.scanRadar (scanner.scanTo depth) radar) := by
  unfold scanRadar
  split
  · exact stepwise_pure _
  · next rule _ =>
    have hfetch : scanner.Stepwise
        (fetchUnscored scanner.storage radar rule.scope scanner.batchSize) :=
      stepwise_recorded (.fetched radar rule.scope scanner.batchSize) (fun _ => rfl) (fun _ => rfl)
    refine hfetch.bind fun r => ?_
    cases r with
    | error fault => exact stepwise_pure _
    | ok runs =>
      refine (stepwise_log _).bind fun _ => ?_
      split
      · exact stepwise_pure _
      · exact stepwise_scoreRuns depth radar rule.checks runs _

theorem stepwise_scanRadars (radars : List Radar) (stats : ScanStats) :
    scanner.Stepwise (scanner.scanRadars (scanner.scanTo depth) radars stats) := by
  induction radars generalizing stats with
  | nil => exact stepwise_pure _
  | cons radar radars ih =>
    refine (stepwise_scanRadar depth radar).bind fun r => ?_
    cases r with
    | ok radarStats => exact ih _
    | error fault => exact (stepwise_log _).bind fun _ => ih _

/-- A pass is made of steps, whether or not it gets to its end. -/
theorem stepwise_pass : scanner.Stepwise (scanner.pass (scanner.scanTo depth)) := by
  have hlist : scanner.Stepwise (listRadars scanner.storage) :=
    stepwise_recorded .listed (fun _ => rfl) (fun _ => rfl)
  refine hlist.bind fun r => ?_
  cases r with
  | error fault => exact stepwise_pure _
  | ok radars =>
    refine (stepwise_scanRadars depth radars _).bind fun stats => ?_
    exact (stepwise_log _).bind fun _ => stepwise_pure _

end Passes

/-! ### Scans -/

/-- A scan that finds the guard free does not say that it was refused. -/
theorem scanTo_ne_skipped (depth : Nat) {e : Engine σ} (hidle : e.flight = .idle) :
    (scanner.scanTo (depth + 1) e).1 ≠ .ok .skipped := by
  rw [scanTo, guarded_of_idle _ hidle]
  cases (scanner.pass (scanner.scanTo depth) { e with flight := ⟨true⟩ }).1 <;> simp [Except.map]

variable (scanner) in
/-- A scan that finds the guard free is made of steps, and gives the guard back behind the last
one. -/
theorem exists_reaches_scan {e : Engine σ} (hidle : e.flight = .idle) :
    ∃ e₁, scanner.Reaches { e with flight := ⟨true⟩ } e₁ ∧
      (scanner.scan e).2 = { e₁ with flight := .idle } := by
  refine ⟨_, stepwise_pass 0 { e with flight := ⟨true⟩ } _ .refl, ?_⟩
  show (guarded (scanner.pass (scanner.scanTo 0)) e).2 = _
  rw [guarded_of_idle _ hidle]

theorem flight_scanTo (depth : Nat) {e : Engine σ} (hidle : e.flight = .idle) :
    (scanner.scanTo (depth + 1) e).2.flight = .idle := by
  rw [scanTo, guarded_of_idle _ hidle]

/-- Single flight. Whatever callers do with the guard, there is at most one permit, the guard is
taken exactly while there is one, and one is handed out exactly when there is none.

A scan that finds the guard taken is refused, and all that it does is to say so in the log. A scan
that finds it free is made of steps at none of which the guard is free, for whoever else starts a
scan meanwhile. The scans that its evaluators start are on record, each as having found the guard
taken, and as refused. At the end of the scan the guard is free, so that the next one is let in. -/
theorem single_flight (scanner : Scanner σ) :
    (∀ ms : List FlightMove,
      (Flights.idle.moves ms).holders.length ≤ 1 ∧
        ((Flights.idle.moves ms).flight.running = true ↔ (Flights.idle.moves ms).holders ≠ []) ∧
        ∀ caller, ((Flights.idle.moves ms).move (.acquire caller)).1 = true ↔
          (Flights.idle.moves ms).holders = []) ∧
      (∀ (e : Engine σ) depth, e.flight.running = true →
        scanner.scanTo depth e = (.ok .skipped, { e with log := e.log ++ [.alreadyRunning] })) ∧
      ∀ e : Engine σ, e.flight = .idle →
        (∃ e₁, scanner.Reaches { e with flight := ⟨true⟩ } e₁ ∧
          (scanner.scan e).2 = { e₁ with flight := .idle }) ∧
        (∀ e₁, scanner.Reaches { e with flight := ⟨true⟩ } e₁ → e₁.flight.running = true) ∧
        (∃ made, (scanner.scan e).2.calls = e.calls ++ made ∧ ∀ running report,
          .rescanned running report ∈ made → running = true ∧ report = .ok .skipped) ∧
        (scanner.scan e).1 ≠ .ok .skipped ∧ (scanner.scan e).2.flight = .idle ∧
        (scanner.scan (scanner.scan e).2).1 ≠ .ok .skipped := by
  refine ⟨fun ms => ?_, fun e depth => scanTo_of_running scanner depth e, fun e hidle => ?_⟩
  · have hsingle := Flights.single_idle.moves ms
    exact ⟨hsingle.one, hsingle.running, hsingle.acquire_iff⟩
  · have hfree : (scanner.scan e).2.flight = .idle := flight_scanTo 0 hidle
    obtain ⟨e₁, hreaches, hscan⟩ := exists_reaches_scan scanner hidle
    refine ⟨⟨e₁, hreaches, hscan⟩, fun e₁ h => (Reaches.refused h rfl).running, ?_,
      scanTo_ne_skipped 0 hidle, hfree, scanTo_ne_skipped 0 hfree⟩
    obtain ⟨made, hmade, hrefused⟩ := (Reaches.refused hreaches rfl).calls
    exact ⟨made, by rw [hscan, hmade], hrefused⟩

/-- A filter whose evaluator starts a scan, and says yes when that is refused. -/
def againFilter : Filter :=
  ⟨"again", [], .evaluator fun _ _ _ => .rescan fun report =>
    .answer (.ok ⟨report matches .ok .skipped, none⟩)⟩

/-- A scan whose evaluator starts another one, and a scan that cannot list the radars: both of them
give the guard back. -/
theorem single_flight_again :
    let scanner := overMemory (Registry.ofList [againFilter]) 1 .atOnce
    let radar : Radar := ⟨.nil, .nil, none, none, (Tree.identity .and).toJson,
      (Tree.combine .and [.combine .or [.leafOf "again" .null]]).toJson, ⟨0, 0, by decide⟩, none⟩
    let run := ({} : VirtualRun).runUntil ⟨0, 0, by decide⟩ none
    let e := Engine.start { radars := [radar], runs := [run] }
    let unlisted : Engine Memory := Engine.start { faults := { list := true } }
    (scanner.scan e).2.store.results.map (·.passed) = [true] ∧ (scanner.scan e).2.flight = .idle ∧
      (scanner.scan unlisted).1 = .error (.storage (.poisoned .radars)) ∧
      (scanner.scan unlisted).2.flight = .idle ∧
      (scanner.scan (scanner.scan unlisted).2).1 ≠ .ok .skipped := by
  intro scanner radar run e unlisted
  obtain ⟨-, -, hscan⟩ := single_flight scanner
  obtain ⟨-, -, -, -, hfree, -⟩ := hscan e rfl
  obtain ⟨-, -, -, -, hfree', hnext⟩ := hscan unlisted rfl
  exact ⟨by decide +kernel, hfree, by decide +kernel, hfree', hnext⟩

end Scanner

end RunRadar
