import Mathlib.Algebra.Order.Field.Rat
import Mathlib.Data.Rat.Cast.Order
import RunRadar.Filter.Catalog
import RunRadar.Predicate.Match
import RunRadar.Proofs.Filter.Params
import RunRadar.Proofs.Number.Whole
import RunRadar.Run.Virtual

/-!
# RunRadar.Proofs.Filter.Numeric

**Numbers of runs**, compared in process. User ids and durations are whole numbers, and whole
numbers are compared by their doubles. That is exact for small numbers, but large ids that are
neighbours are confused (`users_hold_by_nearest`). A duration is a whole number of milliseconds
because its fraction was dropped, and a comparison with a threshold that it is cut to may come out
the other way (`duration_holds_by_whole_millis`).
-/

namespace RunRadar

/-! ### Dropped fractions -/

namespace Operator

/-- Comparing a fraction with a whole number, without a fraction. -/
theorem compares_div (op : Operator) (x n : Int) :
    op.compares ((x : ℚ) / 1000000) n = op.compares x (n * 10 ^ 6) := by
  have hunit : (0 : ℚ) < 1000000 := by norm_num
  have hint : n * 10 ^ 6 = n * 1000000 := rfl
  rw [hint]
  cases op <;> simp only [compares, decide_eq_decide, ne_eq, div_eq_iff hunit.ne',
    lt_div_iff₀ hunit, le_div_iff₀ hunit, div_lt_iff₀ hunit, div_le_iff₀ hunit]
  all_goals exact_mod_cast Iff.rfl

/-- Dropping the fraction of a number changes how it compares with a whole number only if that is
what is left of it, and not even then for the operators that say the same of the whole number and of
what lies beyond it. -/
theorem compares_tdiv_iff (op : Operator) (x n : Int) :
    op.compares (x.tdiv (10 ^ 6)) n = op.compares ((x : ℚ) / 1000000) n ↔
      10 ^ 6 ∣ x ∨ x.tdiv (10 ^ 6) ≠ n ∨ ((op = .gte ∨ op = .lt) ∧ 0 < x) ∨
        ((op = .gt ∨ op = .lte) ∧ x < 0) := by
  have hparts : x.tmod (10 ^ 6) + x.tdiv (10 ^ 6) * 10 ^ 6 = x := Int.tmod_add_tdiv_mul x _
  have hlow : -10 ^ 6 < x.tmod (10 ^ 6) := Int.lt_tmod_of_pos x (by decide)
  have hhigh : x.tmod (10 ^ 6) < 10 ^ 6 := Int.tmod_lt_of_pos x (by decide)
  have hnonneg : 0 ≤ x → 0 ≤ x.tmod (10 ^ 6) := Int.tmod_nonneg _
  have hnonpos : x ≤ 0 → x.tmod (10 ^ 6) ≤ 0 := by
    intro hx
    have hneg : 0 ≤ (-x).tmod (10 ^ 6) := Int.tmod_nonneg _ (by omega)
    rw [Int.neg_tmod] at hneg
    omega
  rw [compares_div]
  generalize x.tmod (10 ^ 6) = rest at *
  generalize x.tdiv (10 ^ 6) = whole at *
  cases op <;>
    simp only [compares, decide_eq_decide, reduceCtorEq, false_and, true_and, false_or, or_false]
  all_goals omega

end Operator

/-! ### User ids -/

/-- The user ids that params list, if each item is a whole number or is written as one. -/
def listedUsers? (params : Json.Object) : Option (List Int) :=
  match params.present? "users" with
  | some (.array items) => items.mapM Filter.Stored.itemInteger?
  | _ => none

/-- A test for user ids finds those that share a double with a listed id. -/
theorem Predicate.holds_isOneOf_externalUser {run : Run} {u : Int}
    (hu : run.externalUser = some u) (ids : List Int) :
    (isOneOf .externalUser (ids.map .integer)).holds run = true ↔
      ∃ i ∈ ids, Binary64.ofInt i = Binary64.ofInt u := by
  have hfield : run.field? .externalUser = some (.number (.ofInt u)) := by
    rw [Run.field?, hu]
    rfl
  rw [holds, hfield]
  simp only [Option.any_some, List.any_map, List.any_eq_true, Function.comp_apply]
  refine exists_congr fun i => and_congr_right fun _ => ?_
  exact Binary64.eq_ofInt_iff.trans eq_comm

/-- The condition of the filter by user ids holds of a run whose id has the double of a listed one.
Ids that are listed do, and where the id of the run or all listed ids are small, no others do. -/
theorem users_hold_by_nearest (filter : Filter)
    (hfilter : Registry.builtin.lookup? "users" = some filter) (params : Json.Object)
    (p : Predicate) (h : filter.predicate? params = some (.ok p)) (run : Run) (u : Int)
    (hu : run.externalUser = some u) :
    ∃ ids, listedUsers? params = some ids ∧ p = .isOneOf .externalUser (ids.map .integer) ∧
      (p.holds run = true ↔ ∃ i ∈ ids, Binary64.ofInt i = Binary64.ofInt u) ∧
      (u ∈ ids → p.holds run = true) ∧
      ((u.natAbs < 2 ^ 53 ∨ ∀ i ∈ ids, i.natAbs < 2 ^ 53) →
        (p.holds run = true ↔ u ∈ ids)) := by
  cases hfilter
  obtain ⟨items, ids, hitems, hids, rfl⟩ := Filter.Stored.predicate?_users.mp h
  have hlisted : listedUsers? params = some ids := by
    rw [listedUsers?, hitems]
    exact hids
  have hholds := Predicate.holds_isOneOf_externalUser hu ids
  refine ⟨ids, hlisted, rfl, hholds, fun hmem => hholds.mpr ⟨u, hmem, rfl⟩, fun hsmall => ?_⟩
  rw [hholds]
  constructor
  · rintro ⟨i, hi, heq⟩
    have hsmall' : i.natAbs < 2 ^ 53 ∨ u.natAbs < 2 ^ 53 := hsmall.symm.imp_left fun h => h i hi
    rwa [← (Binary64.ofInt_inj hsmall').mp heq]
  · intro hmem
    exact ⟨u, hmem, rfl⟩

/-- Ids that are listed as a number or in words, a small one that is not listed, and one that is not
listed but shares its double with one that is. -/
theorem users_hold_by_nearest_mixed :
    let params : Json.Object := .ofList
      [("users", .array [.number (.ofInt 7), .string " -12 ", .string "9007199254740992"])]
    let run (u : Int) : Run :=
      { ({} : VirtualRun).runUntil ⟨0, 0, by decide⟩ none with externalUser := some u }
    ∃ filter p, Registry.builtin.lookup? "users" = some filter ∧
      filter.predicate? params = some (.ok p) ∧
      listedUsers? params = some [7, -12, 9007199254740992] ∧
      p.holds (run (-12)) = true ∧ p.holds (run 8) = false ∧
      p.holds (run 9007199254740993) = true := by
  intro params run
  let p : Predicate :=
    .isOneOf .externalUser [.integer 7, .integer (-12), .integer 9007199254740992]
  refine ⟨_, p, rfl, rfl, rfl, ?_, ?_, ?_⟩
  · obtain ⟨ids, hids, -, -, hlisted, -⟩ :=
      users_hold_by_nearest _ rfl params p rfl (run (-12)) (-12) rfl
    cases hids
    exact hlisted (by decide)
  · obtain ⟨ids, hids, -, -, -, hsmall⟩ :=
      users_hold_by_nearest _ rfl params p rfl (run 8) 8 rfl
    cases hids
    rw [Bool.eq_false_iff, ne_eq, hsmall (.inl (by decide))]
    decide
  · obtain ⟨ids, hids, -, hnearest, -⟩ :=
      users_hold_by_nearest _ rfl params p rfl (run 9007199254740993) 9007199254740993 rfl
    cases hids
    exact hnearest.mpr ⟨9007199254740992, by decide, by decide +kernel⟩

/-- Of two neighbours that share a double, one is taken for the other. -/
theorem users_confuse_neighbours :
    ¬ ∀ (filter : Filter) (params : Json.Object) (ids : List Int) (p : Predicate) (run : Run)
      (u : Int), Registry.builtin.lookup? "users" = some filter →
      filter.predicate? params = some (.ok p) → listedUsers? params = some ids →
      run.externalUser = some u → -2 ^ 63 ≤ u → u < 2 ^ 63 →
      (p.holds run = true ↔ u ∈ ids) := by
  intro h
  let run : Run := { ({} : VirtualRun).runUntil ⟨0, 0, by decide⟩ none with
    externalUser := some (2 ^ 53 + 1) }
  have hfound := h _ (.ofList [("users", .array [.number (.ofInt (2 ^ 53))])]) [2 ^ 53] _ run
    (2 ^ 53 + 1) rfl rfl rfl rfl (by decide) (by decide)
  have hholds : (Predicate.isOneOf .externalUser [.integer (2 ^ 53)]).holds run = true := by
    decide +kernel
  exact absurd (hfound.mp hholds) (by decide)

/-! ### Durations -/

/-- Between instants outside leap seconds, the time is what their seconds and nanoseconds differ
by. -/
theorem Instant.nanosSince_of_not_leap {t start : Instant} (ht : t.isLeap = false)
    (hstart : start.isLeap = false) :
    t.nanosSince start =
      (t.seconds - start.seconds) * 10 ^ 9 + ((t.nanos : Int) - start.nanos) := by
  simp [nanosSince, ht, hstart]

/-- A test of a duration compares its whole milliseconds with a small threshold. -/
theorem Predicate.holds_compare_durationMs {run : Run} {t : Instant} (hended : run.endedAt = some t)
    (op : Operator) {n : Int} (hsmall : n.natAbs < 2 ^ 53) :
    (compare .durationMs op (.number (.ofInt n))).holds run =
      op.compares ((t.nanosSince run.createdAt).tdiv (10 ^ 6)) n := by
  have hfield : run.field? .durationMs = some (.number (.ofInt (t.millisSince run.createdAt))) := by
    rw [Run.field?, Run.durationMs?, hended]
    rfl
  rw [holds, hfield, Option.any_some]
  exact op.holds_ofInt (.inr hsmall)

/-- Given an operator and a small whole threshold, the condition of the filter by duration compares
the threshold with the whole milliseconds that a run took. That is how the exact time compares,
except where a fraction was dropped and what is left is the threshold: then only `gte` and `lt` are
right about positive times, and only `gt` and `lte` about negative ones. -/
theorem duration_holds_by_whole_millis (filter : Filter)
    (hfilter : Registry.builtin.lookup? "duration" = some filter) (params : Json.Object)
    (op : Operator) (n : Int) (hop : Filter.Stored.operator (filter.reader params) = .ok op)
    (hn : (filter.reader params).number "duration" = .ok (.ofInt n)) (hsmall : n.natAbs < 2 ^ 53)
    (run : Run) (t : Instant) (hended : run.endedAt = some t) :
    let elapsed : Int := t.nanosSince run.createdAt
    ∃ p, filter.predicate? params = some (.ok p) ∧
      p.holds run = op.compares (elapsed.tdiv (10 ^ 6)) n ∧
      (p.holds run = op.compares ((elapsed : ℚ) / 1000000) n ↔
        10 ^ 6 ∣ elapsed ∨ elapsed.tdiv (10 ^ 6) ≠ n ∨ ((op = .gte ∨ op = .lt) ∧ 0 < elapsed) ∨
          ((op = .gt ∨ op = .lte) ∧ elapsed < 0)) ∧
      (t.isLeap = false → run.createdAt.isLeap = false →
        elapsed = (t.seconds - run.createdAt.seconds) * 10 ^ 9 +
          ((t.nanos : Int) - run.createdAt.nanos)) := by
  cases hfilter
  intro elapsed
  have hholds := Predicate.holds_compare_durationMs hended op hsmall
  refine ⟨_, Filter.Stored.predicate?_numeric.mpr ⟨op, _, hop, hn, rfl⟩, hholds, ?_,
    Instant.nanosSince_of_not_leap⟩
  rw [hholds]
  exact op.compares_tdiv_iff elapsed n

/-- Half a millisecond beyond a threshold, which `gt` does not see, and half a millisecond in front
of a negative one, which does not matter to `lte`. -/
theorem duration_holds_by_whole_millis_beyond :
    let params (word : String) (n : Int) : Json.Object :=
      .ofList [("operator", .string word), ("duration", .number (.ofInt n))]
    let run (t : Instant) := ({} : VirtualRun).runUntil ⟨0, 0, by decide⟩ (some t)
    let late := run ⟨1, 500500000, by decide⟩
    let early := run ⟨-2, 499500000, by decide⟩
    ∃ filter p q, Registry.builtin.lookup? "duration" = some filter ∧
      filter.predicate? (params "gt" 1500) = some (.ok p) ∧
      filter.predicate? (params "lte" (-1500)) = some (.ok q) ∧
      p.holds late = false ∧
      Operator.gt.compares (((1500500000 : Int) : ℚ) / 1000000) (1500 : Int) = true ∧
      q.holds early = true ∧
      Operator.lte.compares (((-1500500000 : Int) : ℚ) / 1000000) (-1500 : Int) = true := by
  intro params run late early
  obtain ⟨p, hp, hlate, -⟩ :=
    duration_holds_by_whole_millis _ rfl (params "gt" 1500) .gt 1500 rfl rfl (by decide) late _ rfl
  obtain ⟨q, hq, hearly, hlte, -⟩ :=
    duration_holds_by_whole_millis _ rfl (params "lte" (-1500)) .lte (-1500) rfl rfl (by decide)
      early _ rfl
  refine ⟨_, p, q, rfl, hp, hq, hlate, ?_, hearly, ?_⟩
  · exact (Operator.compares_div .gt _ _).trans (by decide)
  · exact (hlte.mpr (by decide)).symm.trans hearly

/-- A run that took half a millisecond longer than the threshold is not found by `gt`. -/
theorem duration_drops_fraction :
    ¬ ∀ (filter : Filter) (params : Json.Object) (op : Operator) (n : Int) (p : Predicate)
      (run : Run) (t : Instant), Registry.builtin.lookup? "duration" = some filter →
      Filter.Stored.operator (filter.reader params) = .ok op →
      (filter.reader params).number "duration" = .ok (.ofInt n) → n.natAbs < 2 ^ 53 →
      filter.predicate? params = some (.ok p) → run.endedAt = some t →
      run.createdAt.isLeap = false → t.isLeap = false → 1000 ∣ run.createdAt.nanos →
      1000 ∣ t.nanos →
      p.holds run = op.compares ((t.nanosSince run.createdAt : ℚ) / 1000000) n := by
  intro h
  let ended : Instant := ⟨1, 500500000, by decide⟩
  let run := ({} : VirtualRun).runUntil ⟨0, 0, by decide⟩ (some ended)
  have hfound := h _ (.ofList [("operator", .string "gt"), ("duration", .number (.ofInt 1500))]) .gt
    1500 _ run ended rfl rfl rfl (by decide) rfl rfl rfl rfl (by decide) (by decide)
  have hwhole : (Predicate.compare .durationMs .gt (.number (.ofInt 1500))).holds run =
      Operator.gt.compares ((ended.nanosSince run.createdAt).tdiv (10 ^ 6)) 1500 :=
    Predicate.holds_compare_durationMs rfl .gt (by decide)
  have hexact := hwhole.symm.trans hfound
  rw [Operator.compares_tdiv_iff] at hexact
  exact absurd hexact (by decide)

end RunRadar
