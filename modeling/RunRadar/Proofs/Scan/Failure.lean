import RunRadar.Proofs.Engine.Action
import RunRadar.Scan.Pass

/-!
# RunRadar.Proofs.Scan.Failure

**Why a radar is given up**, whatever storage and evaluators do: it has no rule, storage has refused
a request, or its checks do not compile although none of their leaves needs an evaluator
(`Scanner.GivesUp`). Everything that never happens to a radar is read off these three.
-/

namespace RunRadar

open RunRadar.Action

namespace Scanner

/-- What a radar's part of a pass can fail with. -/
inductive GivesUp (registry : Registry) (radar : Radar) : ScanError → Prop
  | ruleless {err : ScanError} (h : radar.rule registry = .error err) : GivesUp registry radar err
  | refused (fault : StoreError) : GivesUp registry radar (.storage fault)
  | uncompiled {rule : Rule} {fault : CompileError} (hrule : radar.rule registry = .ok rule)
    (hneeds : rule.checks.needsEvaluator registry = false)
    (hcompile : rule.checks.compile registry = .error fault) :
    GivesUp registry radar (.checks radar.id fault)

/-- A result that is no failure, or one of those. -/
def Excused {α : Type} (registry : Registry) (radar : Radar) (result : Except ScanError α) : Prop :=
  ∀ err, result = .error err → GivesUp registry radar err

section Excuses

variable {α : Type} {registry : Registry} {radar : Radar}

theorem excused_ok (x : α) : Excused registry radar (.ok x) := nofun

theorem excused_error {err : ScanError} (h : GivesUp registry radar err) :
    Excused registry radar (.error err : Except ScanError α) := by
  rintro _ ⟨⟩
  exact h

end Excuses

variable {σ : Type} (scanner : Scanner σ) (rescan : Rescan σ) {radar : Radar} {rule : Rule}

/-- Scoring fails if checks that are compiled do not compile, or storage refuses to match runs. -/
theorem ensures_scoreRuns_excused (hrule : radar.rule scanner.registry = .ok rule) (runs : List Run)
    (stats : RadarStats) :
    Ensures (fun _ => True) (scanner.scoreRuns rescan radar rule.checks runs stats)
      (Excused scanner.registry radar) := by
  unfold scoreRuns
  split
  · exact (ensures_any _).bind fun _ _ => ensures_pure (excused_ok _)
  · next hneeds =>
      split
      · next hcompile =>
          exact ensures_pure (excused_error
            (.uncompiled hrule (Bool.eq_false_iff.mpr hneeds) hcompile))
      · next p _ =>
          refine (ensures_any (matchingIds scanner.storage (runs.map (·.id)) p)).bind fun r _ => ?_
          cases r with
          | error fault => exact ensures_pure (excused_error (.refused fault))
          | ok matched => exact (ensures_any _).bind fun _ _ => ensures_pure (excused_ok _)

/-- Applying a rule fails if storage refuses to fetch runs, or scoring fails. -/
theorem ensures_applyRule_excused (hrule : radar.rule scanner.registry = .ok rule) :
    Ensures (fun _ => True) (scanner.applyRule rescan radar rule)
      (Excused scanner.registry radar) := by
  unfold applyRule
  refine (ensures_any (fetchUnscored scanner.storage radar rule.scope scanner.batchSize)).bind
    fun r _ => ?_
  cases r with
  | error fault => exact ensures_pure (excused_error (.refused fault))
  | ok runs =>
      refine (ensures_any (log (.analyzing radar.id runs.length))).bind fun _ _ => ?_
      dsimp only
      split
      · exact ensures_pure (excused_ok _)
      · exact scanner.ensures_scoreRuns_excused rescan hrule runs _

/-- A radar's part of a pass fails for one of the three reasons. -/
theorem givesUp_of_scanRadar {e : Engine σ} {err : ScanError}
    (h : (scanner.scanRadar rescan radar e).1 = .error err) :
    GivesUp scanner.registry radar err := by
  unfold scanRadar at h
  cases hrule : radar.rule scanner.registry with
  | error fault =>
      simp only [hrule, pure_apply] at h
      cases h
      exact .ruleless hrule
  | ok rule =>
      simp only [hrule] at h
      exact (scanner.ensures_applyRule_excused rescan hrule e trivial).1 err h

/-- No radar whose trees are well-formed is given up for a malformed tree. -/
theorem scanRadar_ne_malformed (hview : ∃ t, Tree.ofJson radar.view = .ok t)
    (hchecks : ∃ t, Tree.ofJson radar.checks = .ok t) (e : Engine σ) (id : Uuid) (tree : RadarTree)
    (fault : TreeError) :
    (scanner.scanRadar rescan radar e).1 ≠ .error (.malformedRadar id tree fault) := by
  intro h
  obtain ⟨view, hview⟩ := hview
  obtain ⟨checks, hchecks⟩ := hchecks
  cases scanner.givesUp_of_scanRadar rescan h with
  | ruleless h =>
      simp only [Radar.rule, Radar.viewTree, Radar.checksTree, hview, hchecks] at h
      split at h <;> cases h

end Scanner

end RunRadar
