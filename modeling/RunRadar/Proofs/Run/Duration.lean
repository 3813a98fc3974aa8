import Mathlib.Algebra.Group.Int.Defs
import Mathlib.Algebra.Group.Nat.Defs
import RunRadar.Predicate.Match
import RunRadar.Run.Virtual

/-!
# RunRadar.Proofs.Run.Duration

**Durations of virtual runs**. A virtual run ends so many milliseconds after it was created, and its
duration is the time between the two, so it should be what was given. It is, if there is an instant
at which the run can end. If there is none there is no run either, although any number of
sixty-four bits can be given (`VirtualRun.keeps_duration_unless_beyond`).

Away from leap seconds, instants are points on a line: adding and taking the difference are those of
the nanoseconds since the start of 1970 (`Instant.sinceEpoch`).
-/

namespace RunRadar

/-! ### Instants on a line -/

namespace Instant

/-- Nanoseconds since the start of 1970, without leap seconds. -/
def sinceEpoch (t : Instant) : Int := t.seconds * 10 ^ 9 + t.nanos

/-- There is an instant so many nanoseconds after the start of 1970. -/
def Reaches (nanos : Int) : Prop :=
  minSeconds * 10 ^ 9 ≤ nanos ∧ nanos < (maxSeconds + 1) * 10 ^ 9

instance (nanos : Int) : Decidable (Reaches nanos) := inferInstanceAs (Decidable (_ ∧ _))

variable {t start : Instant} {millis : Int}

theorem nanos_lt_of_not_leap (h : t.isLeap = false) : t.nanos < 10 ^ 9 := by
  simpa [isLeap] using h

/-- The time between two instants is the difference of their places. -/
theorem nanosSince_eq (h : t.isLeap = false) (hstart : start.isLeap = false) :
    t.nanosSince start = t.sinceEpoch - start.sinceEpoch := by
  simp only [nanosSince, h, hstart, Bool.false_eq_true, if_false, ite_self, sinceEpoch]
  omega

/-- An instant is found at each place that can be reached. -/
theorem make?_of_reaches {nanos : Int} (h : Reaches nanos) :
    ∃ t, make? (nanos / 10 ^ 9) (nanos % 10 ^ 9).toNat = some t ∧ t.sinceEpoch = nanos ∧
      t.isLeap = false := by
  obtain ⟨hfirst, hlast⟩ := h
  have hnanos : (nanos % 10 ^ 9).toNat < 2_000_000_000 := by omega
  have hrange : InRange ⟨nanos / 10 ^ 9, (nanos % 10 ^ 9).toNat, hnanos⟩ := by
    constructor <;> dsimp only <;> omega
  refine ⟨⟨nanos / 10 ^ 9, (nanos % 10 ^ 9).toNat, hnanos⟩, ?_, ?_, ?_⟩
  · rw [make?, dif_pos hnanos]
    exact if_pos hrange
  · simp only [sinceEpoch]
    omega
  · simp only [isLeap, decide_eq_false_iff_not]
    omega

/-- At other places there is none. -/
theorem make?_of_not_reaches {nanos : Int} (h : ¬ Reaches nanos) :
    make? (nanos / 10 ^ 9) (nanos % 10 ^ 9).toNat = none := by
  have hnanos : (nanos % 10 ^ 9).toNat < 2_000_000_000 := by omega
  rw [make?, dif_pos hnanos]
  refine if_neg fun hrange => h ?_
  obtain ⟨hfirst, hlast⟩ := hrange
  dsimp only at hfirst hlast
  constructor <;> omega

/-- Milliseconds are added to the place of an instant. -/
theorem addMillis?_eq_make? (h : t.isLeap = false)
    (hmillis : -0x7FFF_FFFF_FFFF_FFFF ≤ millis ∧ millis ≤ 0x7FFF_FFFF_FFFF_FFFF) :
    t.addMillis? millis =
      make? ((t.sinceEpoch + millis * 10 ^ 6) / 10 ^ 9)
        ((t.sinceEpoch + millis * 10 ^ 6) % 10 ^ 9).toNat := by
  have hparts := Int.tmod_add_tdiv_mul millis 1000
  have hunit : (0 : Int) ≤ 1_000_000_000 := by decide
  rw [addMillis?, if_pos hmillis]
  simp only [h, Bool.false_eq_true, false_and, if_false, Int.fdiv_eq_ediv_of_nonneg _ hunit,
    Int.fmod_eq_emod_of_nonneg _ hunit, sinceEpoch]
  generalize millis.tdiv 1000 = seconds at *
  generalize millis.tmod 1000 = rest at *
  congr 2
  · omega
  · omega

/-- From one instant to another there are not too many milliseconds for sixty-four bits. -/
theorem millis_bounds (ht : t.InRange) (h : t.isLeap = false)
    (hend : Reaches (t.sinceEpoch + millis * 10 ^ 6)) :
    -0x7FFF_FFFF_FFFF_FFFF ≤ millis ∧ millis ≤ 0x7FFF_FFFF_FFFF_FFFF := by
  have hmin : minSeconds = -8334601228800 := by decide
  have hmax : maxSeconds = 8210266876799 := by decide
  have hnanos := nanos_lt_of_not_leap h
  obtain ⟨hfirst, hlast⟩ := ht
  obtain ⟨hfirst', hlast'⟩ := hend
  simp only [sinceEpoch, hmin, hmax] at *
  omega

/-- Milliseconds lead to the instant at their place, which is as many milliseconds later. -/
theorem addMillis?_of_reaches (ht : t.InRange) (h : t.isLeap = false)
    (hend : Reaches (t.sinceEpoch + millis * 10 ^ 6)) :
    ∃ t', t.addMillis? millis = some t' ∧ t'.millisSince t = millis := by
  obtain ⟨t', ht', hplace, hleap⟩ := make?_of_reaches hend
  have hdiff : t'.sinceEpoch - t.sinceEpoch = millis * 10 ^ 6 := by omega
  refine ⟨t', (addMillis?_eq_make? h (millis_bounds ht h hend)).trans ht', ?_⟩
  rw [millisSince, nanosSince_eq hleap h, hdiff]
  exact Int.mul_tdiv_cancel millis (by decide)

/-- Milliseconds that lead to a place that cannot be reached lead nowhere. -/
theorem addMillis?_of_not_reaches (h : t.isLeap = false)
    (hend : ¬ Reaches (t.sinceEpoch + millis * 10 ^ 6)) : t.addMillis? millis = none := by
  by_cases hmillis : -0x7FFF_FFFF_FFFF_FFFF ≤ millis ∧ millis ≤ 0x7FFF_FFFF_FFFF_FFFF
  · rw [addMillis?_eq_make? h hmillis, make?_of_not_reaches hend]
  · rw [addMillis?, if_neg hmillis]

end Instant

/-! ### Runs -/

namespace VirtualRun

/-- A virtual run of a given duration is a run of that duration, if there is an instant at which it
can end, and otherwise there is no run. One without a duration is a run without an end. -/
theorem keeps_duration_unless_beyond (v : VirtualRun) (createdAt : Instant)
    (hrange : createdAt.InRange) (hleap : createdAt.isLeap = false) :
    (∀ millis, v.durationMs = some millis →
      (Instant.Reaches (createdAt.sinceEpoch + millis * 10 ^ 6) →
        ∃ run, v.toRun? createdAt = some run ∧ run.createdAt = createdAt ∧
          run.durationMs? = some millis ∧
          run.field? .durationMs = some (.number (.ofInt millis))) ∧
      (¬ Instant.Reaches (createdAt.sinceEpoch + millis * 10 ^ 6) →
        v.toRun? createdAt = none)) ∧
      (v.durationMs = none →
        ∃ run, v.toRun? createdAt = some run ∧ run.createdAt = createdAt ∧
          run.durationMs? = none) := by
  refine ⟨fun millis hmillis => ⟨fun hend => ?_, fun hend => ?_⟩, fun hnone => ?_⟩
  · obtain ⟨endedAt, hadd, hsince⟩ := Instant.addMillis?_of_reaches hrange hleap hend
    have hduration : (v.runUntil createdAt (some endedAt)).durationMs? = some millis :=
      congrArg some hsince
    refine ⟨v.runUntil createdAt (some endedAt), ?_, rfl, hduration, ?_⟩
    · simp only [toRun?, hmillis, hadd, Option.map_some]
    · rw [Run.field?, hduration, Option.map_some]
  · simp only [toRun?, hmillis, Instant.addMillis?_of_not_reaches hleap hend, Option.map_none]
  · refine ⟨v.runUntil createdAt none, ?_, rfl, rfl⟩
    simp only [toRun?, hnone]

/-- A run that ends before it was created, over the start of a leap year, with nanoseconds that make
no milliseconds, and the longest duration of sixty-four bits. -/
theorem keeps_duration_unless_beyond_negative :
    let createdAt : Instant := ⟨1704067200, 123456789, by decide⟩
    createdAt.InRange ∧ createdAt.isLeap = false ∧
      (∃ run, ({ durationMs := some (-86400001) } : VirtualRun).toRun? createdAt = some run ∧
        run.durationMs? = some (-86400001)) ∧
      ({ durationMs := some (2 ^ 63 - 1) } : VirtualRun).toRun? createdAt = none := by
  intro createdAt
  have hrange : createdAt.InRange := by decide
  refine ⟨hrange, rfl, ?_, ?_⟩
  · obtain ⟨hkeeps, -⟩ := keeps_duration_unless_beyond { durationMs := some (-86400001) } createdAt
      hrange rfl
    obtain ⟨run, hrun, -, hduration, -⟩ := (hkeeps _ rfl).1 (by decide)
    exact ⟨run, hrun, hduration⟩
  · obtain ⟨hkeeps, -⟩ := keeps_duration_unless_beyond { durationMs := some (2 ^ 63 - 1) } createdAt
      hrange rfl
    exact (hkeeps _ rfl).2 (by decide)

/-- The longest duration of sixty-four bits leads to no run. -/
theorem longest_duration_gives_no_run :
    ¬ ∀ (v : VirtualRun) (millis : Int) (createdAt : Instant), v.durationMs = some millis →
      -2 ^ 63 ≤ millis → millis < 2 ^ 63 → createdAt.InRange → createdAt.isLeap = false →
      ∃ run, v.toRun? createdAt = some run ∧ run.durationMs? = some millis := by
  intro h
  -- noon of the first of March 2024
  obtain ⟨run, hrun, -⟩ := h { durationMs := some (2 ^ 63 - 1) } (2 ^ 63 - 1)
    ⟨1709294400, 0, by decide⟩ rfl (by decide) (by decide) (by decide) rfl
  cases hrun

end VirtualRun

end RunRadar
