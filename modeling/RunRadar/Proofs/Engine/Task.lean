import RunRadar.Engine.Task
import RunRadar.Proofs.Engine.Action

/-!
# RunRadar.Proofs.Engine.Task

What it takes to **reason about tasks**. `Task.finish` turns them into actions, and with binds and
single calls it goes along. Tasks that take turns are another matter, since each of them meets
engines that the other one has left. Two kinds of facts still come one task at a time: properties
of the engine that all steps keep (`Task.Ensures`), and, where no task ever waits, everything
(`Task.finish_both`).
-/

namespace RunRadar

namespace Task

variable {σ α β γ : Type}

/-! ### Finishing -/

@[simp] theorem finish_bind (t : Task σ α) (f : α → Task σ β) :
    (t >>= f).finish = t.finish >>= fun a => (f a).finish := by
  induction t with
  | done a => rfl
  | step act next ih => exact funext fun e => congrFun (ih (act e).1) (act e).2
  | wait rest ih => exact ih

@[simp] theorem finish_map (g : α → β) (t : Task σ α) : (g <$> t).finish = g <$> t.finish :=
  finish_bind t fun a => pure (g a)

@[simp] theorem finish_waitFor (n : Nat) (t : Task σ α) : (t.waitFor n).finish = t.finish := by
  induction n with
  | zero => rfl
  | succ n ih => exact ih

/-- Alone, a call is as good as answered at once. -/
@[simp] theorem finish_called (pace : Pace) (a : Action σ α) : (called pace a).finish = a := by
  funext e
  simp only [called, finish, finish_waitFor]
  rfl

/-! ### What a task ensures -/

/-- From engines with the property `I`, every step leaves one with `I` again, and the task comes to
something with `Q`. That holds whatever others make of the engine, as long as they keep `I`. -/
def Ensures (I : Engine σ → Prop) : Task σ α → (α → Prop) → Prop
  | .done a, Q => Q a
  | .step act next, Q => ∀ e, I e → I (act e).2 ∧ Ensures I (next (act e).1) Q
  | .wait rest, Q => Ensures I rest Q

section Ensures

variable {I : Engine σ → Prop} {t : Task σ α} {u : Task σ β} {f : α → Task σ β} {Q : α → Prop}
  {R : β → Prop} {S : γ → Prop}

theorem ensures_pure {a : α} (h : Q a) : (pure a : Task σ α).Ensures I Q := h

theorem Ensures.bind (ht : t.Ensures I Q) (hf : ∀ a, Q a → (f a).Ensures I R) :
    (t >>= f).Ensures I R := by
  induction t with
  | done a => exact hf a ht
  | step act next ih => exact fun e he => ⟨(ht e he).1, ih _ (ht e he).2⟩
  | wait rest ih => exact ih ht

theorem Ensures.mono {Q' : α → Prop} (ht : t.Ensures I Q) (h : ∀ a, Q a → Q' a) :
    t.Ensures I Q' := by
  induction t with
  | done a => exact h a ht
  | step act next ih => exact fun e he => ⟨(ht e he).1, ih _ (ht e he).2⟩
  | wait rest ih => exact ih ht

theorem Ensures.waitFor (ht : t.Ensures I Q) (n : Nat) : (t.waitFor n).Ensures I Q := by
  induction n with
  | zero => exact ht
  | succ n ih => exact ih

theorem ensures_called {a : Action σ α} (h : Action.Ensures I a Q) (pace : Pace) :
    (called pace a).Ensures I Q := by
  intro e he
  obtain ⟨ha, he'⟩ := h e he
  exact ⟨he', Ensures.waitFor (t := .done _) ha _⟩

theorem Ensures.meanwhile {both : Task σ β → Task σ γ} {alone : β → Task σ γ}
    (hu : u.Ensures I R) (hboth : ∀ u, u.Ensures I R → (both u).Ensures I S)
    (halone : ∀ b, R b → (alone b).Ensures I S) : (Task.meanwhile both alone u).Ensures I S := by
  induction u with
  | done b => exact halone b hu
  | step act next ih => exact fun e he => ⟨(hu e he).1, ih _ (hu e he).2⟩
  | wait rest ih => exact hboth rest hu

/-- Two tasks in turns ensure what both of them do. -/
theorem Ensures.both {join : α → β → γ} (ht : t.Ensures I Q) (hu : u.Ensures I R)
    (hjoin : ∀ a b, Q a → R b → S (join a b)) : (Task.both join t u).Ensures I S := by
  induction t generalizing u with
  | done a => exact hu.bind fun b hb => ensures_pure (hjoin a b ht hb)
  | step act next ih => exact fun e he => ⟨(ht e he).1, ih _ (ht e he).2 hu⟩
  | wait rest ih =>
      refine hu.meanwhile (fun u hu => ih ht hu) fun b hb => ?_
      exact Ensures.bind ht fun a ha => ensures_pure (hjoin a b ha hb)

theorem Ensures.finish (ht : t.Ensures I Q) : Action.Ensures I t.finish Q := by
  induction t with
  | done a => exact fun e he => ⟨ht, he⟩
  | step act next ih => exact fun e he => ih _ (ht e he).2 _ (ht e he).1
  | wait rest ih => exact ih ht

end Ensures

/-! ### Tasks that never wait -/

/-- Nobody else ever has a turn. -/
def IsPrompt : Task σ α → Prop
  | .done _ => True
  | .step act next => ∀ e, IsPrompt (next (act e).1)
  | .wait _ => False

section Prompt

variable {t : Task σ α} {u : Task σ β} {f : α → Task σ β}

theorem isPrompt_pure (a : α) : (pure a : Task σ α).IsPrompt := trivial

theorem IsPrompt.bind (ht : t.IsPrompt) (hf : ∀ a, (f a).IsPrompt) : (t >>= f).IsPrompt := by
  induction t with
  | done a => exact hf a
  | step act next ih => exact fun e => ih _ (ht e)
  | wait rest => exact ht.elim

theorem isPrompt_called (a : Action σ α) : (called .atOnce a).IsPrompt := by
  intro e
  have hturns : (Pace.atOnce.timed a e).1.2 = 0 := by
    simp only [Pace.timed, Pace.turns, Pace.atOnce, Action.bind_apply, Action.get_apply,
      Action.pure_apply]
    split <;> rfl
  show ((done _).waitFor (Pace.atOnce.timed a e).1.2).IsPrompt
  rw [hturns]
  exact trivial

theorem IsPrompt.both (join : α → β → γ) (ht : t.IsPrompt) (hu : u.IsPrompt) :
    (Task.both join t u).IsPrompt := by
  induction t with
  | done a => exact hu.bind fun b => isPrompt_pure _
  | step act next ih => exact fun e => ih _ (ht e)
  | wait rest => exact ht.elim

/-- A task that never waits comes to its end before the next one has a turn. -/
theorem finish_both (join : α → β → γ) (ht : t.IsPrompt) (u : Task σ β) :
    (Task.both join t u).finish = (do
      let a ← t.finish
      let b ← u.finish
      return join a b) := by
  induction t with
  | done a => exact finish_map (join a) u
  | step act next ih => exact funext fun e => congrFun (ih _ (ht e)) (act e).2
  | wait rest => exact ht.elim

end Prompt

end Task

end RunRadar
