import RunRadar.Proofs.Engine.Evaluation
import RunRadar.Proofs.Store.Memory
import RunRadar.Run.Virtual
import RunRadar.Tree.Compile

/-!
# RunRadar.Proofs.Engine.Compilation

**Compiling keeps the meaning** of a tree. Where a tree has a storage condition, asking storage
leaf by leaf, asking it about the whole tree on one run, and asking it about the whole tree on a
batch of runs all come to the same verdict.

A leaf that compiles always answers, with what its condition says of the run. The rest is an
induction over operands: the condition of a node is its connective over their conditions.
-/

namespace RunRadar

namespace Leaf

variable {registry : Registry} {l : Leaf} {p : Predicate}

/-- A leaf that compiles asks no evaluator. -/
theorem isSteady_of_compile (h : l.compile registry = .ok p) : l.IsSteady registry := by
  intro filter evaluate hl hb _
  rw [compile, hl] at h
  dsimp only at h
  rw [(filter.predicate?_eq_none_iff).mpr hb] at h
  cases h

/-- A leaf that compiles answers what its condition says, unless the run cannot be tested. -/
theorem exists_answer_of_compile (h : l.compile registry = .ok p) {faults : Faults} {run : Run}
    (hf : faults.runMatches.contains run.id = false) :
    ∃ o, l.answer registry faults run = .ok o ∧ o.passed = p.holds run := by
  unfold compile at h
  unfold answer
  cases hl : registry.lookup? l.id with
  | none =>
      rw [hl] at h
      cases h
      exact ⟨.pass, rfl, rfl⟩
  | some filter =>
      rw [hl] at h
      dsimp only at h ⊢
      cases hp : filter.predicate? l.params with
      | none => rw [hp] at h; cases h
      | some built =>
          rw [hp] at h
          cases built with
          | error e => cases h
          | ok q =>
              cases h
              exact ⟨.ofFilter l.id (p.holds run), by simp only [hf]; rfl, rfl⟩

end Leaf

/-- The error of what failed. -/
def faultOf? {ε α : Type} : Except ε α → Option ε
  | .error err => some err
  | .ok _ => none

theorem faultOf?_eq_some_iff {ε α : Type} {x : Except ε α} {err : ε} :
    faultOf? x = some err ↔ x = .error err := by
  cases x <;> simp [faultOf?]

theorem faultOf?_eq_none_iff {ε α : Type} {x : Except ε α} :
    faultOf? x = none ↔ ∃ a, x = .ok a := by
  cases x <;> simp [faultOf?]

namespace Tree

variable {registry : Registry}

/-- The condition of a node joins what the conditions of its operands say. -/
theorem holds_joinPredicates (op : Connective) (ps : List Predicate) (run : Run) :
    (joinPredicates op ps).holds run = op.join (ps.map (Predicate.holds run)) := by
  cases op with
  | and =>
      rw [joinPredicates, Predicate.holds_all, Connective.join, List.all_map]
      rfl
  | or =>
      rw [joinPredicates, Predicate.holds_any, Connective.join, List.any_map]
      rfl

/-- Operands compile one by one. -/
theorem forall₂_of_compileAll {ts : List Tree} {ps : List Predicate}
    (h : compileAll registry ts = .ok ps) :
    List.Forall₂ (fun t p => t.compile registry = .ok p) ts ps := by
  induction ts generalizing ps with
  | nil =>
      cases h
      exact .nil
  | cons t ts ih =>
      rw [compileAll] at h
      cases ht : t.compile registry with
      | error e => rw [ht] at h; cases h
      | ok p =>
          rw [ht] at h
          cases hts : compileAll registry ts with
          | error e => rw [hts] at h; cases h
          | ok ps' =>
              rw [hts] at h
              cases h
              exact .cons ht (ih hts)

/-- A node compiles when its operands do, into the condition that joins theirs. -/
theorem compile_combine_eq_ok {op : Connective} {ts : List Tree} {p : Predicate}
    (h : (combine op ts).compile registry = .ok p) :
    ∃ ps, List.Forall₂ (fun t q => t.compile registry = .ok q) ts ps ∧
      p = joinPredicates op ps := by
  rw [compile] at h
  cases hts : compileAll registry ts with
  | error e => rw [hts] at h; cases h
  | ok ps =>
      rw [hts] at h
      cases h
      exact ⟨ps, forall₂_of_compileAll hts, rfl⟩

/-- A tree fails to compile when a leaf does, and for the reason of the first one that does. -/
theorem faultOf?_compile (registry : Registry) (t : Tree) :
    faultOf? (t.compile registry) = t.leaves.findSome? fun l => faultOf? (l.compile registry) := by
  induction t using operand_induction with
  | identity op => rfl
  | leaf l => simp [compile, leaves]
  | combine op ts ih =>
      have hall : faultOf? (compileAll registry ts) =
          (ts.flatMap leaves).findSome? fun l => faultOf? (l.compile registry) := by
        induction ts with
        | nil => rfl
        | cons t ts ihs =>
            rw [List.flatMap_cons, List.findSome?_append, ← ih t List.mem_cons_self,
              ← ihs fun s hs => ih s (List.mem_cons_of_mem _ hs), compileAll]
            cases t.compile registry with
            | error err => rfl
            | ok p => cases compileAll registry ts <;> rfl
      rw [leaves_combine, ← hall, compile]
      cases compileAll registry ts <;> rfl

/-- Every leaf of a tree that compiles does. -/
theorem exists_compile_of_mem_leaves {t : Tree} {p : Predicate}
    (h : t.compile registry = .ok p) {l : Leaf} (hl : l ∈ t.leaves) :
    ∃ q, l.compile registry = .ok q := by
  have hnone : faultOf? (t.compile registry) = none := faultOf?_eq_none_iff.mpr ⟨p, h⟩
  rw [faultOf?_compile, List.findSome?_eq_none_iff] at hnone
  exact faultOf?_eq_none_iff.mp (hnone l hl)

/-- A tree compiles when all of its leaves do. -/
theorem exists_compile_iff {t : Tree} :
    (∃ p, t.compile registry = .ok p) ↔ ∀ l ∈ t.leaves, (l.compile registry).isOk := by
  constructor
  · rintro ⟨p, hp⟩ l hl
    obtain ⟨q, hq⟩ := exists_compile_of_mem_leaves hp hl
    rw [hq]
    rfl
  · intro h
    cases ht : t.compile registry with
    | ok p => exact ⟨p, rfl⟩
    | error err =>
        have hsome := faultOf?_eq_some_iff.mpr ht
        rw [faultOf?_compile] at hsome
        obtain ⟨l, hl, hleaf⟩ := List.exists_of_findSome?_eq_some hsome
        have hok := h l hl
        rw [faultOf?_eq_some_iff.mp hleaf] at hok
        cases hok

section Answers

variable {t : Tree} {p : Predicate} (h : t.compile registry = .ok p) {faults : Faults}
  {run : Run} (hf : faults.runMatches.contains run.id = false)

include h

/-- The leaves of a tree that compiles ask no evaluator. -/
theorem isSteady_of_compile : ∀ l ∈ t.leaves, l.IsSteady registry := by
  intro l hl
  obtain ⟨q, hq⟩ := exists_compile_of_mem_leaves h hl
  exact Leaf.isSteady_of_compile hq

include hf

/-- The leaves of a tree that compiles answer. -/
theorem exists_answer_of_compile :
    ∀ l ∈ t.leaves, ∃ o, l.answer registry faults run = .ok o := by
  intro l hl
  obtain ⟨q, hq⟩ := exists_compile_of_mem_leaves h hl
  obtain ⟨o, ho, -⟩ := Leaf.exists_answer_of_compile hq hf
  exact ⟨o, ho⟩

/-- The verdict of a tree that compiles is what its condition says. -/
theorem decides_of_compile :
    Decides (t.outcome (Leaf.answer registry faults run)) (p.holds run) := by
  induction t using operand_induction generalizing p with
  | identity op =>
      intro o ho
      cases h
      cases ho
      cases op <;> rfl
  | leaf l =>
      intro o ho
      obtain ⟨o', ho', hp⟩ := Leaf.exists_answer_of_compile h hf
      rw [outcome_leaf, ho'] at ho
      cases ho
      exact hp
  | combine op ts ih =>
      intro o ho
      obtain ⟨ps, hps, rfl⟩ := compile_combine_eq_ok h
      -- operand by operand, the condition says what the interpreter would
      have hd : List.Forall₂ Decides (ts.map (outcome (Leaf.answer registry faults run)))
          (ps.map (Predicate.holds run)) := by
        rw [List.forall₂_map_left_iff, List.forall₂_map_right_iff]
        refine List.Forall₂.imp ?_ ((List.forall₂_and_left _ _).mpr ⟨fun t ht => ht, hps⟩)
        rintro t q ⟨ht, hq⟩
        exact ih t ht hq
      rw [outcome_combine] at ho
      rw [Connective.passed_joinOutcomes hd ho, holds_joinPredicates]

end Answers

end Tree

/-! ### Four ways to a verdict -/

/-- Where a tree has a storage condition, that condition gives the verdict of the interpreter,
of checks, and of storage on any batch of runs, however long storage takes to answer. -/
theorem compile_gives_verdict (registry : Registry) (run : Run) (t : Tree) (p : Predicate)
    (h : t.compile registry = .ok p) :
    (∀ (rescan : Action Memory (Except ScanError ScanReport)) (pace : Pace) (e : Engine Memory),
      e.store.faults = {} →
        (∃ o, ((Interpreter.overMemory registry rescan).evaluateAt pace run t e).1 = .ok o ∧
          o.passed = p.holds run) ∧
        ∃ c, ((Interpreter.overMemory registry rescan).runChecksAt pace run t e).1 = .ok c ∧
          c.passed = p.holds run) ∧
    ∀ (m : Memory) (ids : List Uuid), m.faults = {} → m.DistinctRuns → run ∈ m.runs →
      run.id ∈ ids →
        ∃ found, (Memory.storage.matchingIds ids p m).1 = .ok found ∧
          (run.id ∈ found ↔ p.holds run = true) := by
  constructor
  · intro rescan pace e he
    -- no leaf consults an evaluator, so no scan is started either
    have hf : e.store.faults.runMatches.contains run.id = false := by simp [he]
    have hleaves : ∀ l ∈ t.leaves,
        Action.Ensures (Engine.At e.store e.flight)
          ((Interpreter.overMemory registry rescan).evaluateLeaf run l)
          (· = l.answer registry e.store.faults run) :=
      fun l hl => Interpreter.ensures_evaluateLeaf (Tree.isSteady_of_compile h l hl)
    have hanswer := Tree.exists_answer_of_compile h hf
    obtain ⟨o, ho⟩ := Tree.exists_outcome_eq_ok hanswer
    obtain ⟨c, hc⟩ := Tree.exists_checked_eq_ok hanswer
    have hpassed : o.passed = p.holds run := Tree.decides_of_compile h hf o ho
    refine ⟨⟨o, ?_, hpassed⟩, ⟨c, ?_, ?_⟩⟩
    · exact (Interpreter.ensures_evaluateAt hleaves e ⟨rfl, rfl⟩).1.trans ho
    · exact (Interpreter.ensures_runChecksAt hleaves e ⟨rfl, rfl⟩).1.trans hc
    · exact (Tree.checked_passed_eq ho hc).trans hpassed
  · intro m ids hm hruns hrun hid
    refine ⟨m.matchingIds ids p, ?_, ?_⟩
    · simp [Memory.storage, Memory.answer, hm]
    · simp [Memory.mem_matchingIds hruns hrun, hid]

/-- A filter that storage decides by the status of a run. Its evaluator would say otherwise. -/
def failedFilter : Filter :=
  ⟨"failed", [], .hybrid (fun _ => .ok (.compare .status .eq (.text "error")))
    (.steady fun _ _ => .ok ⟨true, none⟩)⟩

/-- The ways to a verdict agree on a nested tree with an operand that is not registered, an
identity, and a node without operands. -/
theorem compile_gives_verdict_nested :
    let registry := Registry.ofList [failedFilter]
    let run := ({} : VirtualRun).runUntil ⟨0, 0, by decide⟩ none
    let failed := Tree.leafOf "failed" .null
    let t := Tree.combine .and [.combine .or [failed, .leafOf "unknown" .null],
      .combine .or [.identity .or, .combine .or [], failed]]
    let interpreter := Interpreter.overMemory registry (pure (.ok .skipped))
    ∃ p, t.compile registry = .ok p ∧ p.holds run = false ∧
      (∃ o, (interpreter.evaluate run t (.start .empty)).1 = .ok o ∧ o.passed = p.holds run) ∧
      (∃ c, (interpreter.runChecks run t (.start .empty)).1 = .ok c ∧
        c.passed = p.holds run) ∧
      ∃ found, (Memory.storage.matchingIds [run.id] p { runs := [run] }).1 = .ok found ∧
        (run.id ∈ found ↔ p.holds run = true) := by
  intro registry run failed t interpreter
  obtain ⟨hengine, hstore⟩ := compile_gives_verdict registry run t _ rfl
  obtain ⟨hevaluate, hchecks⟩ := hengine (pure (.ok .skipped)) .atOnce (.start .empty) rfl
  exact ⟨_, rfl, by decide +kernel, hevaluate, hchecks,
    hstore { runs := [run] } [run.id] rfl (by decide) (by simp) (by simp)⟩

end RunRadar
