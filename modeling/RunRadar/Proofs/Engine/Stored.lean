import RunRadar.Proofs.Engine.Evaluation
import RunRadar.Proofs.Filter.Catalog
import RunRadar.Proofs.Outcome.ReadBack
import RunRadar.Run.Virtual

/-!
# RunRadar.Proofs.Engine.Stored

Outcomes of evaluations, **stored and read back**. An outcome is read back exactly when its details
are told apart, and what the built-in filters say of a verdict always is: it is an object, if
anything, and no object reads as a list of outcomes.

The nodes of a tree add verdicts and lists of outcomes only, so what their operands have in common
is lifted from leaves to trees by `Outcome.IsInherited`.
-/

namespace RunRadar

open RunRadar.Action

/-! ### Properties that nodes inherit -/

/-- What something comes to has a property, unless it fails. -/
def IfOk {ε α : Type} (P : α → Prop) (r : Except ε α) : Prop := ∀ a, r = .ok a → P a

theorem ifOk_ok {ε α : Type} {P : α → Prop} {a : α} (h : P a) :
    IfOk P (.ok a : Except ε α) := fun _ ha => Except.ok.inj ha ▸ h

theorem ifOk_error {ε α : Type} {P : α → Prop} (e : ε) : IfOk P (.error e) := nofun

/-- A property of bare verdicts that nodes have whenever their operands have it. -/
structure Outcome.IsInherited (P : Outcome → Prop) : Prop where
  bare : ∀ passed, P (.bare passed)
  combined : ∀ passed os, (∀ o ∈ os, P o) → P (.combined passed os)

/-- Coming back from the stored form is inherited. -/
theorem Outcome.isInherited_readable : IsInherited Readable where
  bare _ := readable_plain _ _
  combined _ _ h := readable_operands.mpr h

namespace Interpreter

section Trees

variable {σ : Type} {interpreter : Interpreter σ} {pace : Pace} {run : Run} {I : Engine σ → Prop}
  {P : Outcome → Prop}

theorem ifOk_of_forall₂ {ts : List Tree} {rs : List Evaluated}
    (h : List.Forall₂ (fun _ r => IfOk P r) ts rs) : ∀ r ∈ rs, IfOk P r := by
  induction h with
  | nil => simp
  | cons hr _ ih => exact List.forall_mem_cons.mpr ⟨hr, ih⟩

/-- Operands that checks evaluate have outcomes with the property if all of them do. -/
theorem ifOk_checkOutcomes {rs : List Evaluated} (h : ∀ r ∈ rs, IfOk P r) (op : Connective) :
    IfOk (fun c => ∀ o ∈ c.results, P o) (op.checkOutcomes rs) := by
  induction rs with
  | nil => exact ifOk_ok (by simp)
  | cons r rs ih =>
      rw [List.forall_mem_cons] at h
      cases r with
      | error e => exact ifOk_error e
      | ok o =>
          rw [Connective.checkOutcomes]
          split
          · intro c hc
            obtain ⟨rest, hrest, rfl⟩ := exists_of_map_eq_ok hc
            exact List.forall_mem_cons.mpr ⟨h.1 o rfl, ih h.2 rest hrest⟩
          · exact ifOk_ok (by simpa using h.1 o rfl)

/-- The operand of an OR that passes has the property if all of them do. -/
theorem ifOk_firstPassing {rs : List Evaluated} (h : ∀ r ∈ rs, IfOk P r) :
    IfOk (fun found => ∀ o ∈ found, P o) (firstPassing rs) := by
  induction rs with
  | nil => exact ifOk_ok nofun
  | cons r rs ih =>
      rw [List.forall_mem_cons] at h
      cases r with
      | error e => exact ifOk_error e
      | ok o =>
          rw [firstPassing]
          split
          · exact ifOk_ok fun o' ho' => Option.some.inj ho' ▸ h.1 o rfl
          · exact ih h.2

variable (hP : Outcome.IsInherited P)

include hP

theorem ifOk_conjunction {rs : List Evaluated} (h : ∀ r ∈ rs, IfOk P r) :
    IfOk P (conjunction rs) := by
  intro o ho
  obtain ⟨os, rfl, rfl⟩ := conjunction_eq_ok ho
  exact hP.combined _ os fun o ho => h _ (List.mem_map_of_mem ho) o rfl

theorem disjunction_inherits {operands : Nat} {found : Option Outcome} (h : ∀ o ∈ found, P o) :
    P (disjunction operands found) := by
  cases found with
  | some o =>
      refine hP.combined true [o] fun o' ho' => ?_
      exact List.mem_singleton.mp ho' ▸ h o rfl
  | none =>
      refine hP.combined false _ fun o ho => ?_
      exact List.eq_of_mem_replicate ho ▸ hP.bare false

/-- What nodes inherit from the outcomes of their operands is compositional. -/
theorem isCompositional_ifOk : IsCompositional fun _ r => IfOk P r where
  exists_result _ := ⟨_, ifOk_ok (hP.bare true)⟩
  identity op := ifOk_ok (hP.bare op.identity)
  combine op ts rs h := by
    cases op with
    | and => exact ifOk_conjunction hP (ifOk_of_forall₂ h)
    | or =>
        intro o ho
        obtain ⟨found, hfound, rfl⟩ := exists_of_map_eq_ok ho
        exact disjunction_inherits hP (ifOk_firstPassing (ifOk_of_forall₂ h) found hfound)

variable {t : Tree} (h : ∀ l ∈ t.leaves, Ensures I (interpreter.evaluateLeaf run l) (IfOk P))

include h

/-- What the outcomes of all leaves have and nodes inherit, the outcome of a tree has. -/
theorem ensures_evaluateAt_ifOk : Ensures I (interpreter.evaluateAt pace run t) (IfOk P) :=
  (ensures_task (isCompositional_ifOk hP) h).finish

/-- What the outcomes of all leaves have and nodes inherit, all results of checks have. -/
theorem ensures_runChecksAt_ifOk :
    Ensures I (interpreter.runChecksAt pace run t) (IfOk fun c => ∀ o ∈ c.results, P o) := by
  refine (ensures_checks (isCompositional_ifOk hP) h).mono fun c hc => ?_
  obtain ⟨rs, hrs, rfl⟩ := hc
  exact ifOk_checkOutcomes (ifOk_of_forall₂ hrs) _

end Trees

/-! ### Leaves of filters that explain by objects -/

section Leaves

variable {σ : Type} {interpreter : Interpreter σ} {run : Run} {l : Leaf} {I : Engine σ → Prop}

/-- A function of run and params gives its verdict. -/
theorem ensures_consult_steady (decide : Run → ParamReader → Except EvaluatorError Verdict) :
    Ensures (fun _ => True) (interpreter.consult (.steady decide) run l)
      (· = decide run ⟨l.id, l.params⟩) := fun _ _ => ⟨rfl, trivial⟩

/-- The outcome that such a filter's evaluator gives comes back. -/
theorem readable_verdictOutcome {verdict : Verdict} (id : String)
    (h : verdict.IsExplainedByObject) : (verdictOutcome id verdict).Readable := by
  unfold verdictOutcome
  cases hd : verdict.details with
  | none => exact Outcome.readable_plain _ _
  | some value =>
      obtain ⟨fields, rfl⟩ := h value hd
      exact Outcome.readable_evaluator.mpr ⟨nofun, rfl⟩

/-- Every leaf of such a filter comes to an outcome that comes back, whatever storage answers. -/
theorem ensures_evaluateLeaf_readable
    (h : ∀ filter, interpreter.registry.lookup? l.id = some filter → filter.ExplainsByObject) :
    Ensures (fun _ => True) (interpreter.evaluateLeaf run l) (IfOk Outcome.Readable) := by
  unfold evaluateLeaf
  cases hl : interpreter.registry.lookup? l.id with
  | none => exact ensures_pure (ifOk_ok (Outcome.readable_plain _ _))
  | some filter =>
      dsimp only [evaluateFilter]
      cases filter.predicate? l.params with
      | some built =>
          cases built with
          | error e => exact ensures_pure (ifOk_error _)
          | ok p =>
              refine (ensures_any (runMatches interpreter.storage run p)).bind fun r _ => ?_
              cases r with
              | error fault => exact ensures_pure (ifOk_error _)
              | ok matched => exact ensures_pure (ifOk_ok (Outcome.readable_plain _ _))
      | none =>
          cases he : filter.evaluator? with
          | none => exact ensures_pure (ifOk_ok (Outcome.readable_plain _ _))
          | some evaluate =>
              dsimp only
              cases filter.validate l.params with
              | error e => exact ensures_pure (ifOk_error _)
              | ok _ =>
                  obtain ⟨decide, rfl, hdecide⟩ := h filter hl evaluate he
                  refine (ensures_consult_steady decide).bind fun r hr => ?_
                  cases r with
                  | error fault => exact ensures_pure (ifOk_error _)
                  | ok verdict =>
                      have hverdict := hdecide _ _ _ hr.symm
                      exact ensures_pure (ifOk_ok (readable_verdictOutcome l.id hverdict))

/-- The built-in filters are such filters. -/
theorem ensures_evaluateLeaf_builtin (storage : Storage σ)
    (rescan : Action σ (Except ScanError ScanReport)) (run : Run) (l : Leaf) :
    Ensures (fun _ => True) ((⟨.builtin, storage, rescan⟩ : Interpreter σ).evaluateLeaf run l)
      (IfOk Outcome.Readable) :=
  ensures_evaluateLeaf_readable fun _ hfilter =>
    Filter.explainsByObject_of_mem_catalog (Registry.mem_of_lookup?_ofList hfilter)

end Leaves

end Interpreter

/-! ### Stored outcomes -/

/-- An outcome is read back from its stored form exactly when no node of it has details of an
evaluator that are null or read as a list of outcomes. Over the built-in filters, whatever the
storage behind them and however long it takes to answer, each outcome of a tree is read back, and so
are the results of checks, one by one and as a list. -/
theorem Outcome.ofJson?_toJson_iff :
    (∀ o : Outcome, ofJson? o.toJson = some o ↔ ∀ node ∈ o.nodes, ∀ value,
      node.details = some (.evaluator value) → value ≠ .null ∧ listOfJson? value = none) ∧
    ∀ {σ : Type} (storage : Storage σ) (rescan : Action σ (Except ScanError ScanReport))
      (pace : Pace) (run : Run) (t : Tree) (e : Engine σ),
      let interpreter : Interpreter σ := ⟨.builtin, storage, rescan⟩
      (∀ o, (interpreter.evaluateAt pace run t e).1 = .ok o → ofJson? o.toJson = some o) ∧
      ∀ c, (interpreter.runChecksAt pace run t e).1 = .ok c →
        (∀ o ∈ c.results, ofJson? o.toJson = some o) ∧
        ofJsonAll? (toJsonAll c.results) = some c.results := by
  refine ⟨ofJson?_toJson_iff_readable, ?_⟩
  intro σ storage rescan pace run t e interpreter
  have hleaves : ∀ l ∈ t.leaves,
      Ensures (fun _ => True) (interpreter.evaluateLeaf run l) (IfOk Readable) :=
    fun l _ => Interpreter.ensures_evaluateLeaf_builtin storage rescan run l
  refine ⟨fun o ho => ?_, fun c hc => ?_⟩
  · have hreadable : IfOk Readable (interpreter.evaluateAt pace run t e).1 :=
      (Interpreter.ensures_evaluateAt_ifOk isInherited_readable hleaves e trivial).1
    exact (ofJson?_toJson_iff_readable o).mpr (hreadable o ho)
  · have hreadable : IfOk (fun c => ∀ o ∈ c.results, Readable o)
        (interpreter.runChecksAt pace run t e).1 :=
      (Interpreter.ensures_runChecksAt_ifOk isInherited_readable hleaves e trivial).1
    have hresults : ∀ o ∈ c.results, ofJson? o.toJson = some o :=
      fun o ho => (ofJson?_toJson_iff_readable o).mpr (hreadable c hc o ho)
    exact ⟨hresults, ofJsonAll?_toJsonAll_iff.mpr hresults⟩

/-- Mail filters on a run without output: the outcome of an AND with an OR in it is read back, with
what the evaluators say. The details of an evaluator that only says an empty list are not. -/
theorem Outcome.ofJson?_toJson_iff_mail :
    let run := ({} : VirtualRun).runUntil ⟨0, 0, by decide⟩ none
    let mail := Tree.leafOf "email" (.ofMembers [("field", .string "output")])
    let checks := Tree.combine .and [mail, .combine .or [mail, .leafOf "unknown" .null]]
    let interpreter : Interpreter Memory := ⟨.builtin, Memory.storage, pure (.ok .skipped)⟩
    let said : Json := .ofMembers [("matches", .array [])]
    let found : Outcome := .mk false (some "email") (some (.evaluator said))
    let outcome : Outcome := .combined false [found, .combined true [.pass]]
    let vague : Outcome := .mk true none (some (.evaluator (.array [])))
    ((interpreter.evaluate run checks (.start .empty)).1 = .ok outcome ∧
      ofJson? outcome.toJson = some outcome) ∧
    ((interpreter.runChecks run checks (.start .empty)).1 = .ok ⟨false, [found]⟩ ∧
      ofJson? found.toJson = some found ∧ ofJsonAll? (toJsonAll [found]) = some [found]) ∧
    ofJson? vague.toJson ≠ some vague := by
  intro run mail checks interpreter said found outcome vague
  obtain ⟨hiff, hbuiltin⟩ := Outcome.ofJson?_toJson_iff
  obtain ⟨hevaluate, hchecks⟩ :=
    hbuiltin Memory.storage (pure (.ok .skipped)) .atOnce run checks (.start .empty)
  have houtcome : (interpreter.evaluate run checks (.start .empty)).1 = .ok outcome := rfl
  have hresults : (interpreter.runChecks run checks (.start .empty)).1 = .ok ⟨false, [found]⟩ := rfl
  obtain ⟨hfound, hlist⟩ := hchecks _ hresults
  refine ⟨⟨houtcome, hevaluate _ houtcome⟩, ⟨hresults, hfound _ (by simp), hlist⟩, fun h => ?_⟩
  have htold := (hiff vague).mp h vague (List.mem_singleton_self _) _ rfl
  cases htold.2

end RunRadar
