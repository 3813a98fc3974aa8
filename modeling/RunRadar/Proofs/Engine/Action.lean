import RunRadar.Engine.Basic
import RunRadar.Store.Memory

/-!
# RunRadar.Proofs.Engine.Action

What it takes to **reason about actions**. An action is a function of the engine, so the
equations at the top compute it; `Ensures` then says what an action comes to and what it leaves
alone, and is proved step by step along the action.

The engine keeps records, and hardly any property reads them. `Engine.At` is what most
properties do read: the store, and the guard of the scans.
-/

namespace RunRadar

namespace Action

variable {σ α β : Type}

/-! ### Computing actions -/

@[simp] theorem bind_apply (a : Action σ α) (f : α → Action σ β) (e : Engine σ) :
    (a >>= f) e = f (a e).1 (a e).2 := rfl

@[simp] theorem pure_apply (x : α) (e : Engine σ) : (pure x : Action σ α) e = (x, e) := rfl

@[simp] theorem map_apply (f : α → β) (a : Action σ α) (e : Engine σ) :
    (f <$> a) e = (f (a e).1, (a e).2) := rfl

@[simp] theorem get_apply (e : Engine σ) : (get : Action σ (Engine σ)) e = (e, e) := rfl

@[simp] theorem modify_apply (f : Engine σ → Engine σ) (e : Engine σ) :
    (modify f : Action σ Unit) e = ((), f e) := rfl

@[simp] theorem call_apply (c : Call) (e : Engine σ) :
    (call c : Action σ Unit) e = ((), { e with calls := e.calls ++ [c] }) := rfl

@[simp] theorem log_apply (event : LogEvent) (e : Engine σ) :
    (log event : Action σ Unit) e = ((), { e with log := e.log ++ [event] }) := rfl

@[simp] theorem recorded_apply (step : StoreStep σ α) (entry : Except StoreError α → Call)
    (e : Engine σ) :
    recorded step entry e =
      ((step e.store).1,
        { e with store := (step e.store).2, calls := e.calls ++ [entry (step e.store).1] }) := rfl

/-! ### What an action ensures -/

/-- From engines with the property `I`, the action comes to something with `Q` and leaves an
engine with `I` again. -/
def Ensures (I : Engine σ → Prop) (a : Action σ α) (Q : α → Prop) : Prop :=
  ∀ e, I e → Q (a e).1 ∧ I (a e).2

variable {I : Engine σ → Prop} {a : Action σ α} {f : α → Action σ β} {Q : α → Prop}
  {R : β → Prop}

theorem ensures_pure {x : α} (h : Q x) : Ensures I (pure x) Q := fun _ he => ⟨h, he⟩

theorem Ensures.bind (ha : Ensures I a Q) (hf : ∀ x, Q x → Ensures I (f x) R) :
    Ensures I (a >>= f) R := by
  intro e he
  obtain ⟨hx, he'⟩ := ha e he
  exact hf _ hx _ he'

theorem Ensures.mono {Q' : α → Prop} (ha : Ensures I a Q) (h : ∀ x, Q x → Q' x) :
    Ensures I a Q' := fun e he => ⟨h _ (ha e he).1, (ha e he).2⟩

/-- Nothing is asked of the engine and of what the action comes to. -/
theorem ensures_any (a : Action σ α) : Ensures (fun _ => True) a fun _ => True :=
  fun _ _ => ⟨trivial, trivial⟩

/-- The action keeps a property, whatever it comes to. -/
def Keeps (I : Engine σ → Prop) (a : Action σ α) : Prop := ∀ e, I e → I (a e).2

theorem keeps_pure (x : α) : Keeps I (pure x) := fun _ he => he

theorem Keeps.bind (ha : Keeps I a) (hf : ∀ x, Keeps I (f x)) : Keeps I (a >>= f) :=
  fun e he => hf _ _ (ha e he)

theorem Ensures.keeps (ha : Ensures I a Q) : Keeps I a := fun e he => (ha e he).2

theorem Keeps.ensures (ha : Keeps I a) : Ensures I a fun _ => True := fun e he => ⟨trivial, ha e he⟩

end Action

/-! ### Store and guard -/

/-- The engine is at a given store, with the guard as given. -/
structure Engine.At {σ : Type} (m : σ) (flight : Flight) (e : Engine σ) : Prop where
  store : e.store = m
  flight : e.flight = flight

namespace Action

variable {flight : Flight}

/-- Putting a call on record changes neither store nor guard. -/
theorem keeps_call {σ : Type} {m : σ} (c : Call) : Keeps (Engine.At m flight) (call c) :=
  fun _ he => ⟨he.store, he.flight⟩

/-! ### Requests to a store in memory -/

section Requests

variable {m : Memory} {radar : Radar} {scope p : Predicate} {limit : Nat} {run : Run}
  {ids : List Uuid}

/-- A store in memory lists its radars, unless listing fails. -/
theorem ensures_listRadars :
    Ensures (Engine.At m flight) (listRadars Memory.storage)
      (· = Memory.answer m.faults.list .radars m.radars) := by
  rintro e ⟨rfl, rfl⟩
  exact ⟨rfl, rfl, rfl⟩

/-- A store in memory gives the oldest runs that a radar can score, unless the radar's runs
cannot be fetched. -/
theorem ensures_fetchUnscored :
    Ensures (Engine.At m flight) (fetchUnscored Memory.storage radar scope limit)
      (· = Memory.answer (m.faults.fetch.contains radar.id) .runs
        (m.unscored radar scope limit)) := by
  rintro e ⟨rfl, rfl⟩
  exact ⟨rfl, rfl, rfl⟩

/-- A store in memory tells whether a condition holds of a run, unless the run cannot be
tested. -/
theorem ensures_runMatches :
    Ensures (Engine.At m flight) (runMatches Memory.storage run p)
      (· = Memory.answer (m.faults.runMatches.contains run.id) .runs (p.holds run)) := by
  rintro e ⟨rfl, rfl⟩
  exact ⟨rfl, rfl, rfl⟩

/-- A store in memory finds the runs that satisfy a condition, unless that fails. -/
theorem ensures_matchingIds :
    Ensures (Engine.At m flight) (matchingIds Memory.storage ids p)
      (· = Memory.answer m.faults.matching .runs (m.matchingIds ids p)) := by
  rintro e ⟨rfl, rfl⟩
  exact ⟨rfl, rfl, rfl⟩

end Requests

end Action

end RunRadar
