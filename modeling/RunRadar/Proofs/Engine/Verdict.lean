import RunRadar.Proofs.Engine.Evaluation
import RunRadar.Run.Virtual

/-!
# RunRadar.Proofs.Engine.Verdict

What a **verdict of the interpreter** means. A tree whose leaves all answer has a verdict. A tree
with leaves that fail may still have one, when an OR has no need of them, and then no way of
filling in their truth values would change it. Otherwise the tree fails with an error of one of
its leaves.
-/

namespace RunRadar

namespace Interpreter

/-- Over a store in memory and evaluators that are functions of run and params, a verdict is
the Boolean value of the tree under every assignment that agrees with the leaves that answer,
an error is the error of a leaf, and there is a verdict when no leaf fails. How long calls are
waited for does not matter. -/
theorem evaluate_gives_value (registry : Registry) (hsteady : registry.IsSteady)
    (rescan : Action Memory (Except ScanError ScanReport)) (pace : Pace) (run : Run) (t : Tree)
    (e : Engine Memory) :
    let result := ((overMemory registry rescan).evaluateAt pace run t e).1
    let answer := Leaf.answer registry e.store.faults run
    (∀ o, result = .ok o → ∀ α, t.Agrees answer α → o.passed = t.value α) ∧
      (∀ err, result = .error err → ∃ l ∈ t.leaves, answer l = .error err) ∧
      ((∀ l ∈ t.leaves, ∃ o, answer l = .ok o) → ∃ o, result = .ok o) := by
  intro result answer
  have hleaves : ∀ l ∈ t.leaves,
      Action.Ensures (Engine.At e.store e.flight)
        ((overMemory registry rescan).evaluateLeaf run l) (· = answer l) :=
    fun l _ => ensures_evaluateLeaf (Leaf.isSteady_of_registry hsteady l)
  have hresult : result = t.outcome answer := (ensures_evaluateAt hleaves e ⟨rfl, rfl⟩).1
  rw [hresult]
  refine ⟨fun o ho α hα => ?_, fun err herr => ?_, fun hall => ?_⟩
  · exact Tree.passed_eq_value hα o ho
  · exact Tree.exists_leaf_of_outcome_eq_error herr
  · exact Tree.exists_outcome_eq_ok hall

/-- A filter whose evaluator never has a verdict. -/
def brokenFilter : Filter :=
  ⟨"broken", [], .evaluator (.steady fun _ params => .error (.failed params.filter "down"))⟩

/-- An OR hides a filter that fails behind one that is not registered. An AND does not. -/
theorem evaluate_hides_failure :
    let registry := Registry.ofList [brokenFilter]
    let run := ({} : VirtualRun).runUntil ⟨0, 0, by decide⟩ none
    let evaluate := fun t =>
      ((overMemory registry (pure (.ok .skipped))).evaluate run t (.start .empty)).1
    let broken := Tree.leafOf "broken" .null
    let hidden := Tree.combine .or [.leafOf "unknown" .null, broken]
    registry.IsSteady ∧
      (∃ o, evaluate hidden = .ok o ∧
        ∀ α, hidden.Agrees (Leaf.answer registry {} run) α → o.passed = hidden.value α) ∧
      (∃ err, evaluate (.combine .and [hidden, broken]) = .error err ∧
        ∃ l ∈ (Tree.combine .and [hidden, broken]).leaves,
          l.answer registry {} run = .error err) ∧
      (∀ l ∈ (Tree.leafOf "unknown" .null).leaves, ∃ o, l.answer registry {} run = .ok o) ∧
      ∃ o, evaluate (.leafOf "unknown" .null) = .ok o := by
  have hsteady : (Registry.ofList [brokenFilter]).IsSteady :=
    Registry.isSteady_ofList_singleton _ _ _
  have hgives := fun t =>
    evaluate_gives_value _ hsteady (pure (.ok .skipped)) .atOnce
      (({} : VirtualRun).runUntil ⟨0, 0, by decide⟩ none) t (.start .empty)
  have hunknown : ∀ l ∈ (Tree.leafOf "unknown" .null).leaves,
      ∃ o, l.answer (Registry.ofList [brokenFilter]) {}
        (({} : VirtualRun).runUntil ⟨0, 0, by decide⟩ none) = .ok o := by
    intro l hl
    obtain rfl := List.mem_singleton.mp hl
    exact ⟨_, rfl⟩
  exact ⟨hsteady, ⟨_, rfl, (hgives _).1 _ rfl⟩, ⟨_, rfl, (hgives _).2.1 _ rfl⟩, hunknown,
    (hgives _).2.2 hunknown⟩

end Interpreter

end RunRadar
