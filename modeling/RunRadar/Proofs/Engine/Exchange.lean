import RunRadar.Proofs.Engine.Evaluation

/-!
# RunRadar.Proofs.Engine.Exchange

What an engine has **asked its storage**, and what it was told. The record of an engine holds its
calls but not whether they went well, and a storage may answer as it likes. So the requests of an
action are listed together with their answers (`Exchange`): the answers are those that the storage
gives in the states it goes through, and the requests are the ones on record (`Engine.Trades`).

Evaluating a tree asks storage about single runs and nothing else, whatever the evaluators do, as
long as the scans that they start are refused.
-/

namespace RunRadar

open RunRadar.Action

/-- A request to a storage, with what it answered. -/
inductive Exchange
  | listed (answer : Except StoreError (List Radar))
  | fetched (radar : Radar) (scope : Predicate) (limit : Nat)
    (answer : Except StoreError (List Run))
  | tested (run : Run) (p : Predicate) (answer : Except StoreError Bool)
  | matched (ids : List Uuid) (p : Predicate) (answer : Except StoreError (List Uuid))
  | inserted (score : Score) (answer : Except StoreError Unit)

namespace Exchange

/-- The request as it is put on record. -/
def call : Exchange → Call
  | .listed _ => .listRadars
  | .fetched radar scope limit answer =>
    .fetchUnscored radar.id scope limit (idsOf (·.map (·.id)) answer)
  | .tested run p _ => .runMatches run.id p
  | .matched ids p answer => .matchingIds ids p (idsOf id answer)
  | .inserted score _ => .insertResult score

/-- In the state `s`, the storage gives the answer and goes on to `s'`. -/
def Happens {σ : Type} (storage : Storage σ) (s s' : σ) : Exchange → Prop
  | .listed answer => storage.listRadars s = (answer, s')
  | .fetched radar scope limit answer =>
    storage.fetchUnscored radar scope limit s = (answer, s')
  | .tested run p answer => storage.runMatches run p s = (answer, s')
  | .matched ids p answer => storage.matchingIds ids p s = (answer, s')
  | .inserted score answer => storage.insertResult score s = (answer, s')

/-- Whether storage was asked about a single run. -/
def isTest : Exchange → Bool
  | .tested _ _ _ => true
  | _ => false

end Exchange

/-- Whether a call is one of storage. -/
def Call.isRequest : Call → Bool
  | .consult _ _ => false
  | .rescanned _ _ => false
  | _ => true

@[simp] theorem Exchange.isRequest_call (x : Exchange) : x.call.isRequest = true := by
  cases x <;> rfl

/-- Exchanges that take a storage from one state to another, one after the other. -/
inductive Storage.Converses {σ : Type} (storage : Storage σ) : σ → List Exchange → σ → Prop
  | nil (s : σ) : Converses storage s [] s
  | cons {s s' s'' : σ} {x : Exchange} {xs : List Exchange} (hx : x.Happens storage s s')
    (hxs : Converses storage s' xs s'') : Converses storage s (x :: xs) s''

theorem Storage.Converses.append {σ : Type} {storage : Storage σ} {s s' s'' : σ}
    {xs ys : List Exchange} (h : storage.Converses s xs s') (h' : storage.Converses s' ys s'') :
    storage.Converses s (xs ++ ys) s'' := by
  induction h with
  | nil => exact h'
  | cons hx _ ih => exact .cons hx (ih h')

namespace Engine

variable {σ : Type} {storage : Storage σ} {e e₁ e₂ : Engine σ} {xs ys : List Exchange}

/-! ### Trading with storage -/

/-- From one engine to another, exactly these exchanges were made with storage: they are what is
new on record of it, and they take the one store to the other. The guard is as it was. -/
structure Trades (storage : Storage σ) (e : Engine σ) (xs : List Exchange) (e' : Engine σ) :
    Prop where
  store : storage.Converses e.store xs e'.store
  calls : ∃ calls, e'.calls = e.calls ++ calls ∧
    calls.filter Call.isRequest = xs.map Exchange.call
  flight : e'.flight = e.flight

theorem Trades.refl (e : Engine σ) : e.Trades storage [] e :=
  ⟨.nil _, ⟨[], by simp, rfl⟩, rfl⟩

theorem Trades.trans (h : e.Trades storage xs e₁) (h' : e₁.Trades storage ys e₂) :
    e.Trades storage (xs ++ ys) e₂ := by
  obtain ⟨calls, hcalls, hrequests⟩ := h.calls
  obtain ⟨calls', hcalls', hrequests'⟩ := h'.calls
  refine ⟨h.store.append h'.store, ⟨calls ++ calls', ?_, ?_⟩, h'.flight.trans h.flight⟩
  · rw [hcalls', hcalls, List.append_assoc]
  · rw [List.filter_append, hrequests, hrequests', List.map_append]

/-- Writing to the log is no exchange. -/
theorem Trades.log (h : e.Trades storage xs e₁) (event : LogEvent) :
    e.Trades storage xs (Action.log event e₁).2 := ⟨h.store, h.calls, h.flight⟩

/-- Neither is a call of anything else than storage. -/
theorem trades_call {c : Call} (hc : c.isRequest = false) (e : Engine σ) :
    e.Trades storage [] (Action.call c e).2 :=
  ⟨.nil _, ⟨[c], rfl, by simp [hc]⟩, rfl⟩

/-- A request is an exchange, with the answer that it gets. -/
theorem trades_recorded {α : Type} {step : StoreStep σ α} {entry : Except StoreError α → Call}
    (exchange : Except StoreError α → Exchange)
    (hcall : ∀ answer, (exchange answer).call = entry answer)
    (hhappens : ∀ s, (exchange (step s).1).Happens storage s (step s).2) (e : Engine σ) :
    e.Trades storage [exchange (recorded step entry e).1] (recorded step entry e).2 := by
  rw [recorded_apply]
  refine ⟨.cons (hhappens _) (.nil _), ⟨[entry (step e.store).1], rfl, ?_⟩, rfl⟩
  rw [← hcall, List.map_singleton, List.filter_singleton, Exchange.isRequest_call]
  rfl

theorem trades_listRadars (storage : Storage σ) (e : Engine σ) :
    e.Trades storage [.listed (listRadars storage e).1] (listRadars storage e).2 :=
  trades_recorded .listed (fun _ => rfl) (fun _ => rfl) e

theorem trades_fetchUnscored (storage : Storage σ) (radar : Radar) (scope : Predicate)
    (limit : Nat) (e : Engine σ) :
    e.Trades storage [.fetched radar scope limit (fetchUnscored storage radar scope limit e).1]
      (fetchUnscored storage radar scope limit e).2 :=
  trades_recorded (.fetched radar scope limit) (fun _ => rfl) (fun _ => rfl) e

theorem trades_runMatches (storage : Storage σ) (run : Run) (p : Predicate) (e : Engine σ) :
    e.Trades storage [.tested run p (runMatches storage run p e).1]
      (runMatches storage run p e).2 :=
  trades_recorded (.tested run p) (fun _ => rfl) (fun _ => rfl) e

theorem trades_matchingIds (storage : Storage σ) (ids : List Uuid) (p : Predicate)
    (e : Engine σ) :
    e.Trades storage [.matched ids p (matchingIds storage ids p e).1]
      (matchingIds storage ids p e).2 :=
  trades_recorded (.matched ids p) (fun _ => rfl) (fun _ => rfl) e

theorem trades_insertResult (storage : Storage σ) (score : Score) (e : Engine σ) :
    e.Trades storage [.inserted score (insertResult storage score e).1]
      (insertResult storage score e).2 :=
  trades_recorded (.inserted score) (fun _ => rfl) (fun _ => rfl) e

/-! ### Asking about single runs -/

/-- From one engine to another, storage was asked about single runs and nothing else. -/
def Tests (storage : Storage σ) (e e' : Engine σ) : Prop :=
  ∃ tests, e.Trades storage tests e' ∧ ∀ x ∈ tests, x.isTest = true

theorem Tests.refl (e : Engine σ) : e.Tests storage e := ⟨[], .refl e, by simp⟩

theorem Tests.trans (h : e.Tests storage e₁) (h' : e₁.Tests storage e₂) : e.Tests storage e₂ := by
  obtain ⟨tests, htrades, htests⟩ := h
  obtain ⟨tests', htrades', htests'⟩ := h'
  exact ⟨tests ++ tests', htrades.trans htrades', List.forall_mem_append.mpr ⟨htests, htests'⟩⟩

theorem Tests.flight (h : e.Tests storage e₁) : e₁.flight = e.flight := by
  obtain ⟨_, htrades, _⟩ := h
  exact htrades.flight

/-- Asking nothing is asking about single runs only. -/
theorem Trades.tests (h : e.Trades storage [] e₁) : e.Tests storage e₁ := ⟨[], h, by simp⟩

end Engine

/-- During a pass, the action asks nothing of storage. -/
def Action.Quiet {σ α : Type} (storage : Storage σ) (a : Action σ α) : Prop :=
  ∀ e : Engine σ, e.flight.running = true → e.Trades storage [] (a e).2

namespace Interpreter

variable {σ : Type} {interpreter : Interpreter σ} {e : Engine σ}
  (h : Quiet interpreter.storage interpreter.rescan) (hrunning : e.flight.running = true)

include h hrunning

/-- An evaluator asks nothing of storage if the scans that it starts do not. -/
theorem tests_follow (c : Consultation) :
    Keeps (e.Tests interpreter.storage) (interpreter.follow c) := by
  induction c with
  | answer result => exact keeps_pure _
  | rescan next ih =>
    intro e₁ he₁
    have hrescan := he₁.trans (h e₁ (he₁.flight ▸ hrunning)).tests
    exact ih _ _ (hrescan.trans (Engine.trades_call rfl _).tests)

theorem tests_consult (evaluate : Evaluator) (run : Run) (l : Leaf) :
    Keeps (e.Tests interpreter.storage) (interpreter.consult evaluate run l) := by
  intro e₁ he₁
  have hcall := he₁.trans (Engine.trades_call (c := .consult l.id run.id) rfl e₁).tests
  refine tests_follow h hrunning _ _ ?_
  exact hcall.trans (Engine.Trades.tests ⟨.nil _, ⟨[], by simp, rfl⟩, rfl⟩)

/-- A leaf asks storage about the run, or an evaluator. -/
theorem tests_evaluateLeaf (run : Run) (l : Leaf) :
    Keeps (e.Tests interpreter.storage) (interpreter.evaluateLeaf run l) := by
  refine keeps_evaluateLeaf_of (fun p e₁ he₁ => ?_) fun _ evaluate _ _ _ => ?_
  · exact he₁.trans ⟨_, Engine.trades_runMatches _ run p e₁, by simp [Exchange.isTest]⟩
  · exact tests_consult h hrunning evaluate run l

/-- Checks ask storage about single runs and nothing else. -/
theorem tests_runChecksAt (pace : Pace) (run : Run) (checks : Tree) :
    e.Tests interpreter.storage (interpreter.runChecksAt pace run checks e).2 :=
  keeps_runChecksAt (fun l _ => tests_evaluateLeaf h hrunning run l) e (.refl e)

end Interpreter

end RunRadar
