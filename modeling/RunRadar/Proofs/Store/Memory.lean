import Mathlib.Data.List.Nodup
import RunRadar.Store.Memory

/-!
# RunRadar.Proofs.Store.Memory

What a **store in memory** answers, and how its results grow. Its runs have different identifiers;
that is nothing which the store would check, and is assumed wherever it matters. Neither does the
store check that a result is the only one for its radar and its run: that is for those who add
results.
-/

namespace RunRadar

/-- Identifiers in increasing order are the same identifiers. -/
@[simp] theorem Uuid.mem_distinctSorted {id : Uuid} {ids : List Uuid} :
    id ∈ distinctSorted ids ↔ id ∈ ids := by
  simp [distinctSorted]

/-- What a result is for: a radar and a run. -/
def Score.key (score : Score) : Uuid × Uuid := (score.radar, score.run)

namespace Memory

variable {m : Memory} {radar : Radar} {scope : Predicate} {limit : Nat} {run : Run}

/-- No two runs of the store have the same identifier. -/
def DistinctRuns (m : Memory) : Prop := (m.runs.map (·.id)).Nodup

instance (m : Memory) : Decidable m.DistinctRuns := inferInstanceAs (Decidable (List.Nodup _))

/-- A run is known by its identifier. -/
theorem DistinctRuns.eq_of_id_eq (h : m.DistinctRuns) {a b : Run} (ha : a ∈ m.runs)
    (hb : b ∈ m.runs) (heq : a.id = b.id) : a = b :=
  List.inj_on_of_nodup_map h ha hb heq

/-- A request that does not fail gives its value. -/
theorem eq_of_answer_eq_ok {α : Type} {fails : Bool} {collection : Collection} {value a : α}
    (h : answer fails collection value = .ok a) : a = value := by
  unfold answer at h
  split at h
  · cases h
  · exact (Except.ok.inj h).symm

/-- Among some identifiers, those of the runs that satisfy a condition are found. -/
theorem mem_matchingIds (h : m.DistinctRuns) (hrun : run ∈ m.runs) {ids : List Uuid}
    {p : Predicate} : run.id ∈ m.matchingIds ids p ↔ run.id ∈ ids ∧ p.holds run = true := by
  rw [matchingIds, Uuid.mem_distinctSorted, List.mem_map]
  constructor
  · rintro ⟨other, hother, heq⟩
    rw [List.mem_filter, Bool.and_eq_true, List.contains_iff_mem] at hother
    obtain rfl := h.eq_of_id_eq hother.1 hrun heq
    exact hother.2
  · rintro ⟨hid, hp⟩
    exact ⟨run, by simp [hrun, hid, hp], rfl⟩

/-- Whether a run is found among runs that it belongs to. -/
theorem contains_matchingIds (h : m.DistinctRuns) (hrun : run ∈ m.runs) {ids : List Uuid}
    (hid : run.id ∈ ids) (p : Predicate) :
    (m.matchingIds ids p).contains run.id = p.holds run := by
  rw [Bool.eq_iff_iff, List.contains_iff_mem, mem_matchingIds h hrun]
  exact and_iff_right hid

/-- A run that is fetched belongs to the radar's project, has no result for the radar yet, and
is in scope. -/
theorem mem_of_mem_unscored (h : run ∈ m.unscored radar scope limit) :
    run ∈ m.runs ∧ run.project = radar.project ∧ m.isScored radar.id run.id = false ∧
      scope.holds run = true := by
  have hmem : run ∈ m.eligible radar scope := by
    have := List.mem_of_mem_take h
    rwa [oldestFirst, List.mem_mergeSort] at this
  simpa [eligible, and_assoc] using hmem

/-- No run is fetched twice. -/
theorem nodup_unscored (h : m.DistinctRuns) :
    ((m.unscored radar scope limit).map (·.id)).Nodup := by
  have heligible : ((m.eligible radar scope).map (·.id)).Nodup :=
    h.sublist (List.filter_sublist.map _)
  have hsorted : ((oldestFirst (m.eligible radar scope)).map (·.id)).Nodup :=
    ((List.mergeSort_perm _ _).map _).nodup_iff.mpr heligible
  exact hsorted.sublist ((List.take_sublist _ _).map _)

/-! ### Further results -/

/-- The store with further results. -/
def addScores (m : Memory) (scores : List Score) : Memory :=
  { m with results := m.results ++ scores }

@[simp] theorem runs_addScores (scores : List Score) : (m.addScores scores).runs = m.runs := rfl

@[simp] theorem faults_addScores (scores : List Score) :
    (m.addScores scores).faults = m.faults := rfl

@[simp] theorem results_addScores (scores : List Score) :
    (m.addScores scores).results = m.results ++ scores := rfl

@[simp] theorem addScores_nil : m.addScores [] = m := by simp [addScores]

@[simp] theorem addScores_addScores (scores further : List Score) :
    (m.addScores scores).addScores further = m.addScores (scores ++ further) := by
  simp [addScores]

/-- No radar has two results for the same run. -/
def UniqueResults (m : Memory) : Prop := (m.results.map Score.key).Nodup

instance (m : Memory) : Decidable m.UniqueResults := inferInstanceAs (Decidable (List.Nodup _))

/-- Results of one radar can be added when they are for different runs that the radar has no
result for. -/
theorem UniqueResults.addScores (h : m.UniqueResults) (radar : Radar) {scores : List Score}
    (hradar : ∀ score ∈ scores, score.radar = radar.id) (hruns : (scores.map (·.run)).Nodup)
    (hfresh : ∀ score ∈ scores, m.isScored radar.id score.run = false) :
    (m.addScores scores).UniqueResults := by
  -- among themselves the new results differ already in their runs
  have hkeys : (scores.map Score.key).Nodup := by
    refine List.Nodup.of_map Prod.snd ?_
    rwa [List.map_map]
  rw [UniqueResults, results_addScores, List.map_append]
  refine List.nodup_append.mpr ⟨h, hkeys, ?_⟩
  intro key hold key' hnew heq
  obtain ⟨old, hmem, rfl⟩ := List.mem_map.mp hold
  obtain ⟨new, hmem', rfl⟩ := List.mem_map.mp hnew
  have hkey : old.radar = new.radar ∧ old.run = new.run := Prod.mk.inj heq
  -- the new result would be for a run that the radar has a result for
  have hnot := hfresh new hmem'
  rw [isScored, List.any_eq_false] at hnot
  refine hnot old hmem ?_
  simp [hkey, hradar new hmem']

end Memory

end RunRadar
