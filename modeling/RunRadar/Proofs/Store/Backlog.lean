import RunRadar.Proofs.Store.Memory

/-!
# RunRadar.Proofs.Store.Backlog

The **backlog** of a radar: the runs that it can still score, oldest first. A request for runs
gives the front of it.

The order is that of a stable sort, so leaving runs out and sorting can be exchanged
(`Memory.filter_oldestFirst`). That is why a backlog keeps its order while it is worked off: with
further results it is the old one without the runs that they are for.
-/

namespace RunRadar

/-! ### Order -/

theorem Instant.le_trans {s t u : Instant} (h : s.le t = true) (h' : t.le u = true) :
    s.le u = true := by
  simp only [le, Bool.or_eq_true, decide_eq_true_eq, Bool.and_eq_true] at h h' ⊢
  omega

theorem Instant.le_total (s t : Instant) : (s.le t || t.le s) = true := by
  simp only [le, Bool.or_eq_true, decide_eq_true_eq, Bool.and_eq_true]
  omega

theorem Run.createdAt_le_trans (a b c : Run) (h : a.createdAt.le b.createdAt = true)
    (h' : b.createdAt.le c.createdAt = true) : a.createdAt.le c.createdAt = true :=
  Instant.le_trans h h'

theorem Run.createdAt_le_total (a b : Run) :
    (a.createdAt.le b.createdAt || b.createdAt.le a.createdAt) = true :=
  a.createdAt.le_total b.createdAt

section Sorting

variable {α : Type}

/-- A list is split in one way only into elements without a property and, behind them, elements
with it. -/
theorem split_unique {q : α → Bool} {l₁ l₂ k₁ k₂ : List α} (h : l₁ ++ l₂ = k₁ ++ k₂)
    (hl₁ : ∀ a ∈ l₁, ¬q a) (hl₂ : ∀ a ∈ l₂, q a) (hk₁ : ∀ a ∈ k₁, ¬q a)
    (hk₂ : ∀ a ∈ k₂, q a) : l₁ = k₁ ∧ l₂ = k₂ := by
  have hback : l₂ = k₂ := by
    have := congrArg (List.filter q) h
    rwa [List.filter_append, List.filter_append, List.filter_eq_nil_iff.mpr hl₁,
      List.filter_eq_nil_iff.mpr hk₁, List.filter_eq_self.mpr hl₂,
      List.filter_eq_self.mpr hk₂] at this
  subst hback
  exact ⟨List.append_cancel_right h, rfl⟩

/-- A stable sort and leaving elements out can be exchanged. -/
theorem filter_mergeSort {le : α → α → Bool}
    (trans : ∀ a b c, le a b = true → le b c = true → le a c = true)
    (total : ∀ a b, (le a b || le b a) = true) (p : α → Bool) (l : List α) :
    (l.mergeSort le).filter p = (l.filter p).mergeSort le := by
  induction l with
  | nil => rw [List.mergeSort_nil, List.filter_nil, List.mergeSort_nil]
  | cons a l ih =>
      obtain ⟨l₁, l₂, hcons, hl, hless⟩ := List.mergeSort_cons trans total a l
      -- `a` is put behind all that is less, and in front of all that is not
      have hrest : ∀ b ∈ l₂, le a b = true := by
        have hsorted := List.pairwise_mergeSort trans total (a :: l)
        rw [hcons, List.pairwise_append, List.pairwise_cons] at hsorted
        exact hsorted.2.1.1
      rw [hl, List.filter_append] at ih
      rw [hcons, List.filter_append]
      cases hp : p a with
      | false =>
          rw [List.filter_cons_of_neg (by simp [hp]), List.filter_cons_of_neg (by simp [hp]), ih]
      | true =>
          obtain ⟨k₁, k₂, hcons', hk, hless'⟩ := List.mergeSort_cons trans total a (l.filter p)
          have hrest' : ∀ b ∈ k₂, le a b = true := by
            have hsorted := List.pairwise_mergeSort trans total (a :: l.filter p)
            rw [hcons', List.pairwise_append, List.pairwise_cons] at hsorted
            exact hsorted.2.1.1
          obtain ⟨rfl, rfl⟩ := split_unique (q := le a) (ih.trans hk)
            (fun b hb => by simpa using hless b (List.mem_of_mem_filter hb))
            (fun b hb => hrest b (List.mem_of_mem_filter hb))
            (fun b hb => by simpa using hless' b hb) hrest'
          rw [List.filter_cons_of_pos hp, List.filter_cons_of_pos hp, hcons']

end Sorting

namespace Memory

/-- Leaving runs out and putting them in order can be exchanged. -/
theorem filter_oldestFirst (p : Run → Bool) (runs : List Run) :
    (oldestFirst runs).filter p = oldestFirst (runs.filter p) :=
  filter_mergeSort Run.createdAt_le_trans Run.createdAt_le_total p runs

/-- Runs are in order of their creation, and those created at the same instant are in a given
order. -/
structure IsOldestFirst (given ordered : List Run) : Prop where
  perm : ordered.Perm given
  sorted : ordered.Pairwise fun a b => a.createdAt.le b.createdAt = true
  ties : ∀ t, ordered.filter (·.createdAt = t) = given.filter (·.createdAt = t)

theorem isOldestFirst_oldestFirst (runs : List Run) : IsOldestFirst runs (oldestFirst runs) where
  perm := List.mergeSort_perm _ _
  sorted := List.pairwise_mergeSort Run.createdAt_le_trans Run.createdAt_le_total runs
  ties := by
    intro t
    rw [filter_oldestFirst]
    refine List.mergeSort_of_pairwise (List.pairwise_of_forall_mem_list fun a ha b hb => ?_)
    have ha' : a.createdAt = t := by simpa using (List.mem_filter.mp ha).2
    have hb' : b.createdAt = t := by simpa using (List.mem_filter.mp hb).2
    rw [ha', hb', Instant.le]
    simp

/-! ### Backlogs -/

/-- The runs that a radar can still score, oldest first. -/
def backlog (m : Memory) (radar : Radar) (scope : Predicate) : List Run :=
  oldestFirst (m.eligible radar scope)

variable {m m' : Memory} {radar : Radar} {scope : Predicate} {run : Run} {scores : List Score}

/-- A request for runs gives the front of the backlog. -/
theorem unscored_eq_take (m : Memory) (radar : Radar) (scope : Predicate) (limit : Nat) :
    m.unscored radar scope limit = (m.backlog radar scope).take limit := rfl

theorem mem_backlog : run ∈ m.backlog radar scope ↔ run ∈ m.eligible radar scope := by
  rw [backlog, oldestFirst, List.mem_mergeSort]

theorem mem_runs_of_mem_backlog (h : run ∈ m.backlog radar scope) : run ∈ m.runs :=
  List.mem_of_mem_filter (mem_backlog.mp h)

/-- The runs of a backlog have no result yet. -/
theorem isScored_of_mem_backlog (h : run ∈ m.backlog radar scope) :
    m.isScored radar.id run.id = false := by
  have := (List.mem_filter.mp (mem_backlog.mp h)).2
  simp only [Bool.and_eq_true, Bool.not_eq_true'] at this
  exact this.1.2

/-- No run stands in a backlog twice. -/
theorem nodup_backlog (h : m.DistinctRuns) : ((m.backlog radar scope).map (·.id)).Nodup := by
  rw [backlog, oldestFirst, ((List.mergeSort_perm _ _).map _).nodup_iff]
  exact h.sublist (List.filter_sublist.map _)

/-- A radar's results tell its backlog. -/
theorem backlog_congr (hruns : m.runs = m'.runs)
    (hscored : ∀ run, m.isScored radar.id run = m'.isScored radar.id run) :
    m.backlog radar scope = m'.backlog radar scope := by
  simp only [backlog, eligible, hruns, hscored]

/-- A result lasts as long as results are only added. -/
theorem isScored_mono (hresults : m.results ⊆ m'.results) {id : Uuid}
    (h : m.isScored radar.id id = true) : m'.isScored radar.id id = true := by
  rw [isScored, List.any_eq_true] at h ⊢
  obtain ⟨score, hscore, h⟩ := h
  exact ⟨score, hresults hscore, h⟩

/-- As results are added, the runs that they are for leave the backlog, and the others keep their
order. -/
theorem backlog_of_results_subset (hruns : m'.runs = m.runs) (hresults : m.results ⊆ m'.results) :
    m'.backlog radar scope =
      (m.backlog radar scope).filter fun run => !m'.isScored radar.id run.id := by
  rw [backlog, backlog, filter_oldestFirst, eligible, eligible, hruns, List.filter_filter]
  congr 1
  refine List.filter_congr fun run _ => ?_
  cases hnew : m'.isScored radar.id run.id with
  | true => simp
  | false =>
      have hold : m.isScored radar.id run.id = false := by
        rw [Bool.eq_false_iff]
        intro h
        rw [isScored_mono hresults h] at hnew
        cases hnew
      simp [hold]

end Memory

end RunRadar
