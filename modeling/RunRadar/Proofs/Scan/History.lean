import RunRadar.Proofs.Scan.Pass
import RunRadar.Run.Virtual

/-!
# RunRadar.Proofs.Scan.History

**Histories** of an engine over a store in memory: scans, and between them new radars, new runs,
and other requests that fail. A property of the store that growing preserves, and that all the
other steps preserve, holds along every history (`Lasting.after`).

The first use of this is that results are never duplicated and never lost, although the store
itself would accept any result. Evaluators are not restricted for it: they may fail, change their
mind, and start scans of their own.
-/

namespace RunRadar

open RunRadar.Action

/-! ### Steps -/

/-- Something that happens to an engine. -/
inductive HistoryStep
  /-- A scan in which evaluators start scans of their own, with so many levels of them below the
  first one. At depth zero this is `Scanner.scan`. -/
  | scan (depth : Nat)
  | addRadar (radar : Radar)
  | addRun (run : Run)
  /-- From here on, these are the requests that fail. -/
  | setFaults (faults : Faults)

namespace HistoryStep

def run? : HistoryStep → Option Run
  | .addRun run => some run
  | _ => none

def faults? : HistoryStep → Option Faults
  | .setFaults faults => some faults
  | _ => none

/-- The runs that are added, in order. -/
def addedRuns (steps : List HistoryStep) : List Run := steps.filterMap run?

/-- The faults that are introduced, in order. -/
def faultsSet (steps : List HistoryStep) : List Faults := steps.filterMap faults?

theorem addedRuns_cons (step : HistoryStep) (steps : List HistoryStep) :
    addedRuns (step :: steps) = addedRuns [step] ++ addedRuns steps :=
  List.filterMap_append (l := [step])

theorem addedRuns_append (steps further : List HistoryStep) :
    addedRuns (steps ++ further) = addedRuns steps ++ addedRuns further :=
  List.filterMap_append

end HistoryStep

open HistoryStep

namespace Scanner

/-- What a step does. -/
def advance (scanner : Scanner Memory) (e : Engine Memory) : HistoryStep → Engine Memory
  | .scan depth => (scanner.scanTo (depth + 1) e).2
  | .addRadar radar => { e with store := e.store.addRadar radar }
  | .addRun run => { e with store := e.store.addRun run }
  | .setFaults faults => { e with store := { e.store with faults } }

/-- The engine after some steps. -/
def after (scanner : Scanner Memory) (e : Engine Memory) (steps : List HistoryStep) :
    Engine Memory := steps.foldl scanner.advance e

theorem after_append (scanner : Scanner Memory) (e : Engine Memory)
    (steps further : List HistoryStep) :
    scanner.after e (steps ++ further) = scanner.after (scanner.after e steps) further :=
  List.foldl_append

variable {registry : Registry} {batchSize : Nat} {pace : Pace} {e : Engine Memory}

/-- Whatever the evaluators do, scoring only adds results. -/
theorem judges_anything (registry : Registry) (batchSize : Nat) (pace : Pace) (depth : Nat) :
    Judges registry pace ((overMemory registry batchSize pace).scanTo depth)
      fun _ _ _ _ => True where
  each := by
    intro checks _ run m flight hflight e he
    -- an evaluator that starts a scan finds the guard taken
    have hrescan : Keeps (Engine.At m flight) ((overMemory registry batchSize pace).scanTo depth) :=
      keeps_scanTo_of_running _ depth hflight
    have hleaves : ∀ l ∈ checks.leaves, Keeps (Engine.At m flight)
        ((Interpreter.overMemory registry _).evaluateLeaf run l) :=
      fun l _ => Interpreter.keeps_evaluateLeaf hrescan
    exact ⟨fun _ _ => trivial, Interpreter.keeps_runChecksAt hleaves e he⟩
  batch := fun _ _ _ _ _ _ => trivial

/-- A step adds the runs that it says. -/
theorem runs_advance (hdistinct : e.store.DistinctRuns) (step : HistoryStep) :
    ((overMemory registry batchSize pace).advance e step).store.runs =
      e.store.runs ++ addedRuns [step] := by
  cases step with
  | scan depth =>
      have hgrows := scanTo_grows (judges_anything registry batchSize pace depth) e hdistinct
      rw [advance, hgrows.frame.2.1]
      exact (List.append_nil _).symm
  | addRadar radar => exact (List.append_nil _).symm
  | addRun run => rfl
  | setFaults faults => exact (List.append_nil _).symm

/-- The runs that are stored, and those that the history has still to add, have different
identifiers. -/
def FreshRuns (e : Engine Memory) (steps : List HistoryStep) : Prop :=
  ((e.store.runs ++ addedRuns steps).map (·.id)).Nodup

instance (e : Engine Memory) (steps : List HistoryStep) : Decidable (FreshRuns e steps) :=
  inferInstanceAs (Decidable (List.Nodup _))

namespace FreshRuns

variable {step : HistoryStep} {steps further : List HistoryStep}

theorem distinctRuns (h : FreshRuns e steps) : e.store.DistinctRuns :=
  h.sublist ((List.sublist_append_left _ _).map _)

theorem advance (h : FreshRuns e (step :: steps)) :
    FreshRuns ((overMemory registry batchSize pace).advance e step) steps := by
  rwa [FreshRuns, runs_advance h.distinctRuns, List.append_assoc, ← addedRuns_cons]

theorem after (h : FreshRuns e (steps ++ further)) :
    FreshRuns ((overMemory registry batchSize pace).after e steps) further := by
  induction steps generalizing e with
  | nil => exact h
  | cons step steps ih => exact ih h.advance

theorem of_append (h : FreshRuns e (steps ++ further)) : FreshRuns e steps := by
  rw [FreshRuns, addedRuns_append, ← List.append_assoc, List.map_append] at h
  exact h.of_append_left

end FreshRuns

/-! ### What lasts -/

/-- A property of the store that no step destroys, as long as only some faults are
introduced. -/
structure Lasting (registry : Registry) (batchSize : Nat)
    (allowed : Faults → Tree → Run → Bool → Prop) (known : List Faults) (I : Memory → Prop) :
    Prop where
  grows : ∀ m m', m.DistinctRuns → m.Grows registry batchSize allowed m' → I m → I m'
  addRadar : ∀ m radar, I m → I (m.addRadar radar)
  addRun : ∀ m run, I m → I (m.addRun run)
  setFaults : ∀ (m : Memory), ∀ faults ∈ known, I m → I { m with faults }

/-- What lasts holds after every history. -/
theorem Lasting.after {allowed : Faults → Tree → Run → Bool → Prop} {known : List Faults}
    {I : Memory → Prop} (h : Lasting registry batchSize allowed known I)
    (hj : ∀ depth, Judges registry pace ((overMemory registry batchSize pace).scanTo depth) allowed)
    {steps : List HistoryStep} (hruns : FreshRuns e steps) (hknown : faultsSet steps ⊆ known)
    (he : I e.store) : I ((overMemory registry batchSize pace).after e steps).store := by
  induction steps generalizing e with
  | nil => exact he
  | cons step steps ih =>
      have hrest : faultsSet steps ⊆ known :=
        fun faults hf => hknown ((List.sublist_cons_self step steps).filterMap _ |>.subset hf)
      -- one step preserves the property, and the induction is over the steps behind it
      refine ih hruns.advance hrest ?_
      cases step with
      | scan depth =>
          exact h.grows _ _ hruns.distinctRuns (scanTo_grows (hj depth) e hruns.distinctRuns) he
      | addRadar radar => exact h.addRadar _ radar he
      | addRun run => exact h.addRun _ run he
      | setFaults faults => exact h.setFaults _ faults (hknown List.mem_cons_self) he

/-! ### No result twice -/

theorem lasting_uniqueResults (registry : Registry) (batchSize : Nat) (known : List Faults) :
    Lasting registry batchSize (fun _ _ _ _ => True) known Memory.UniqueResults where
  grows := fun _ _ hruns hgrows h => hgrows.uniqueResults hruns h
  addRadar := fun _ _ h => h
  addRun := fun _ _ h => h
  setFaults := fun _ _ _ h => h

theorem lasting_results_kept (registry : Registry) (batchSize : Nat) (known : List Faults)
    (results : List Score) :
    Lasting registry batchSize (fun _ _ _ _ => True) known (results <+: ·.results) where
  grows := fun _ _ _ hgrows h => h.trans hgrows.results_kept
  addRadar := fun _ _ h => h
  addRun := fun _ _ h => h
  setFaults := fun _ _ _ h => h

/-- At every moment of every history, no radar has two results for the same run, and whatever
happens further keeps the results and only adds to them. Radars may share an identifier. -/
theorem results_unique_and_kept (registry : Registry) (batchSize : Nat) (pace : Pace)
    (e : Engine Memory) (steps further : List HistoryStep)
    (hruns : FreshRuns e (steps ++ further)) (hresults : e.store.UniqueResults) :
    let scanner := overMemory registry batchSize pace
    (scanner.after e steps).store.UniqueResults ∧
      (scanner.after e steps).store.results <+:
        (scanner.after e (steps ++ further)).store.results := by
  have hj := judges_anything registry batchSize pace
  constructor
  · exact (lasting_uniqueResults registry batchSize _).after hj hruns.of_append
      (List.Subset.refl _) hresults
  · rw [after_append]
    exact (lasting_results_kept registry batchSize _ _).after hj hruns.after
      (List.Subset.refl _) (List.prefix_refl _)

/-- A filter whose evaluator starts a scan before it answers. -/
def restlessFilter : Filter :=
  ⟨"restless", [], .evaluator fun _ _ _ => .rescan fun _ => .answer (.ok ⟨true, none⟩)⟩

/-- A radar that is listed twice, and asks an evaluator that starts scans, still has one result
for each run. -/
theorem restless_radar_scores_once :
    let scanner := overMemory (.ofList [restlessFilter]) 10 .atOnce
    let radar : Radar := ⟨.nil, .nil, none, none, (Tree.identity .and).toJson,
      (Tree.leafOf "restless" .null).toJson, ⟨0, 0, by decide⟩, none⟩
    let run := ({} : VirtualRun).runUntil ⟨0, 0, by decide⟩ none
    let e := Engine.start { radars := [radar, radar], runs := [run] }
    let further := [.addRun { run with id := ⟨1⟩ }, .scan 0]
    FreshRuns e ([.scan 3] ++ further) ∧ e.store.UniqueResults ∧
      (scanner.after e [.scan 3]).store.results.length = 1 ∧
      (scanner.after e [.scan 3]).store.UniqueResults ∧
      (scanner.after e [.scan 3]).store.results <+:
        (scanner.after e ([.scan 3] ++ further)).store.results := by
  intro scanner radar run e further
  have hruns : FreshRuns e ([.scan 3] ++ further) := by decide
  have hresults : e.store.UniqueResults := by decide
  exact ⟨hruns, hresults, by decide +kernel,
    results_unique_and_kept (.ofList [restlessFilter]) 10 .atOnce e [.scan 3] further hruns
      hresults⟩

end Scanner

end RunRadar
