import RunRadar.Proofs.Engine.Rounds
import RunRadar.Proofs.Engine.Task

/-!
# RunRadar.Proofs.Engine.Trace

The **steps of a task**, with the engines that it meets. A task that takes turns with others meets
engines that are not its own doing, so its traces are open: every step may start from any engine.
Traces of tasks that are joined are made of traces of these tasks, and only when a task is finished
do its steps follow on one another.
-/

namespace RunRadar

variable {σ α β γ : Type}

/-- A step of an engine, by the engine in front of it and the one behind it. -/
abbrev EngineStep (σ : Type) := Engine σ × Engine σ

namespace Task

/-- The steps that a task may take and what it then comes to. A new round starts where it waits. -/
inductive Traces : Task σ α → Rounds (EngineStep σ) → α → Prop
  | done (a : α) : Traces (.done a) [[]] a
  | step {δ : Type} {act : Action σ δ} {next : δ → Task σ α} {r : List (EngineStep σ)}
    {rs : Rounds (EngineStep σ)} {a : α} (e : Engine σ)
    (rest : Traces (next (act e).1) (r :: rs) a) :
    Traces (.step act next) (((e, (act e).2) :: r) :: rs) a
  | wait {t : Task σ α} {rs : Rounds (EngineStep σ)} {a : α} (rest : Traces t rs a) :
    Traces (.wait t) ([] :: rs) a

section Traces

variable {t : Task σ α} {u : Task σ β} {rs : Rounds (EngineStep σ)} {a : α} {b : β} {c : γ}

theorem Traces.exists_cons (h : t.Traces rs a) : ∃ r rs', rs = r :: rs' := by
  cases h <;> exact ⟨_, _, rfl⟩

theorem traces_pure {a' : α} (h : (pure a : Task σ α).Traces rs a') : rs = [[]] ∧ a' = a := by
  cases h
  exact ⟨rfl, rfl⟩

theorem traces_bind {f : α → Task σ β} (h : (t >>= f).Traces rs b) :
    ∃ rs₁ a rs₂, t.Traces rs₁ a ∧ (f a).Traces rs₂ b ∧ rs = rs₁.inSequence rs₂ := by
  induction t generalizing rs with
  | done a =>
      obtain ⟨r, rs, rfl⟩ := h.exists_cons
      exact ⟨[[]], a, r :: rs, .done a, h, rfl⟩
  | step act next ih =>
      cases h with
      | step e h =>
          obtain ⟨rs₁, a, rs₂, ht, hf, heq⟩ := ih _ h
          obtain ⟨r₁, rs₁, rfl⟩ := ht.exists_cons
          obtain ⟨r₂, rs₂, rfl⟩ := hf.exists_cons
          refine ⟨_, a, r₂ :: rs₂, .step e ht, hf, ?_⟩
          cases rs₁ <;> obtain ⟨rfl, rfl⟩ := List.cons.inj heq <;> rfl
  | wait t ih =>
      cases h with
      | wait h =>
          obtain ⟨rs₁, a, rs₂, ht, hf, rfl⟩ := ih h
          obtain ⟨r₁, rs₁, rfl⟩ := ht.exists_cons
          exact ⟨_, a, rs₂, .wait ht, hf, rfl⟩

theorem traces_map {g : α → β} (h : (g <$> t).Traces rs b) : ∃ a, t.Traces rs a ∧ b = g a := by
  obtain ⟨rs₁, a, rs₂, ht, hpure, rfl⟩ := traces_bind (f := fun a => pure (g a)) h
  obtain ⟨rfl, rfl⟩ := traces_pure hpure
  obtain ⟨r₁, rs₁, rfl⟩ := ht.exists_cons
  exact ⟨a, by rwa [Rounds.inSequence_nothing], rfl⟩

theorem traces_waitFor {a' : α} {n : Nat} (h : ((done a).waitFor n : Task σ α).Traces rs a') :
    rs = List.replicate (n + 1) [] ∧ a' = a := by
  induction n generalizing rs with
  | zero => exact traces_pure h
  | succ n ih =>
      cases h with
      | wait h =>
          obtain ⟨rfl, rfl⟩ := ih h
          exact ⟨rfl, rfl⟩

/-- A call is made in the first round, and its answer is waited for in those behind. -/
theorem traces_called {pace : Pace} {x : Action σ α} (h : (called pace x).Traces rs a) :
    ∃ e, a = (x e).1 ∧
      rs = [(e, (x e).2)] :: List.replicate (pace.turns e.calls (x e).2.calls) [] := by
  cases h with
  | step e h =>
      obtain ⟨heq, rfl⟩ := traces_waitFor h
      obtain ⟨rfl, rfl⟩ := List.cons.inj heq
      exact ⟨e, rfl, rfl⟩

theorem traces_both {join : α → β → γ} (h : (both join t u).Traces rs c) :
    ∃ rs₁ a rs₂ b, t.Traces rs₁ a ∧ u.Traces rs₂ b ∧ rs = rs₁.sideBySide rs₂ ∧ c = join a b := by
  induction t generalizing u rs with
  | done a =>
      obtain ⟨b, hu, rfl⟩ := traces_map h
      obtain ⟨r, rs, rfl⟩ := hu.exists_cons
      exact ⟨[[]], a, r :: rs, b, .done a, hu, rfl, rfl⟩
  | step act next ih =>
      cases h with
      | step e h =>
          obtain ⟨rs₁, a, rs₂, b, ht, hu, heq, rfl⟩ := ih _ h
          obtain ⟨r₁, rs₁, rfl⟩ := ht.exists_cons
          obtain ⟨r₂, rs₂, rfl⟩ := hu.exists_cons
          obtain ⟨rfl, rfl⟩ := List.cons.inj heq
          exact ⟨_, a, r₂ :: rs₂, b, .step e ht, hu, rfl, rfl⟩
  | wait t ih =>
      -- the second one has its turn, up to its end or to where it waits as well
      induction u generalizing rs with
      | done b =>
          cases h with
          | wait h =>
              obtain ⟨a, ht, rfl⟩ := traces_map h
              exact ⟨_, a, [[]], b, .wait ht, .done b, by rw [Rounds.sideBySide_nothing], rfl⟩
      | step act next ihu =>
          cases h with
          | step e h =>
              obtain ⟨rs₁, a, rs₂, b, ht, hu, heq, rfl⟩ := ihu _ h
              cases ht with
              | wait ht =>
                  obtain ⟨r₂, rs₂, rfl⟩ := hu.exists_cons
                  obtain ⟨rfl, rfl⟩ := List.cons.inj heq
                  exact ⟨_, a, _, b, .wait ht, .step e hu, rfl, rfl⟩
      | wait u =>
          cases h with
          | wait h =>
              obtain ⟨rs₁, a, rs₂, b, ht, hu, rfl, rfl⟩ := ih h
              exact ⟨_, a, _, b, .wait ht, .wait hu, rfl, rfl⟩

end Traces

/-- Steps that follow on one another, from one engine to another. -/
def Leads : Engine σ → List (EngineStep σ) → Engine σ → Prop
  | e, [], e' => e = e'
  | e, s :: steps, e' => s.1 = e ∧ Leads s.2 steps e'

/-- A task that is finished takes steps that follow on one another. -/
theorem exists_traces_finish (t : Task σ α) (e : Engine σ) :
    ∃ rs, t.Traces rs (t.finish e).1 ∧ Leads e rs.flatten (t.finish e).2 := by
  induction t generalizing e with
  | done a => exact ⟨[[]], .done a, rfl⟩
  | step act next ih =>
      obtain ⟨rs, htraces, hleads⟩ := ih _ (act e).2
      obtain ⟨r, rs, rfl⟩ := htraces.exists_cons
      exact ⟨_, .step e htraces, rfl, hleads⟩
  | wait t ih =>
      obtain ⟨rs, htraces, hleads⟩ := ih e
      exact ⟨_, .wait htraces, hleads⟩

end Task

end RunRadar
