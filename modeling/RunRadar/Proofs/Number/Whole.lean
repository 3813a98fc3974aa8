import Mathlib.Algebra.Group.Nat.Defs
import Mathlib.Data.Nat.Log
import Mathlib.Order.Lattice
import RunRadar.Predicate.Basic

/-!
# RunRadar.Proofs.Number.Whole

**Whole numbers as doubles**. Every integer has a nearest double, and the order of integers is that
of their doubles, except that neighbours may share one. Below `2 ^ 53` a double has bits enough for
all digits, so there neighbours are told apart (`Binary64.rank_ofInt_lt`), and comparing with such a
number comes to the same for integers and for doubles (`Operator.holds_ofInt`).

The magnitude bits are followed through rounding. A positive whole number is moved until it has
fifty-three bits, and rounded there; the exponent field counts the moves.
-/

namespace RunRadar

namespace Binary64

/-! ### Rounding to integers -/

theorem roundHalfEven_mul (k : Nat) {d : Nat} (hd : 0 < d) : roundHalfEven (k * d) d = k := by
  simp [roundHalfEven, Nat.mul_div_cancel k hd, hd]

theorem roundHalfEven_one (n : Nat) : roundHalfEven n 1 = n := by
  simpa using roundHalfEven_mul n Nat.one_pos

theorem div_le_roundHalfEven (n d : Nat) : n / d ≤ roundHalfEven n d := by
  unfold roundHalfEven
  dsimp only
  split_ifs <;> omega

theorem roundHalfEven_le (n d : Nat) : roundHalfEven n d ≤ n / d + 1 := by
  unfold roundHalfEven
  dsimp only
  split_ifs <;> omega

/-- Rounding keeps the order. -/
theorem roundHalfEven_mono {n m : Nat} (h : n ≤ m) (d : Nat) :
    roundHalfEven n d ≤ roundHalfEven m d := by
  rcases Nat.eq_or_lt_of_le (Nat.div_le_div_right (c := d) h) with heq | hlt
  · -- the quotients are the same, so the remainders decide
    have hrest : n % d ≤ m % d := by
      have hn := Nat.div_add_mod n d
      have hm := Nat.div_add_mod m d
      rw [heq] at hn
      omega
    unfold roundHalfEven
    simp only [heq]
    split_ifs <;> omega
  · calc roundHalfEven n d ≤ n / d + 1 := roundHalfEven_le n d
      _ ≤ m / d := hlt
      _ ≤ roundHalfEven m d := div_le_roundHalfEven m d

/-! ### The bits of a whole number -/

/-- The significand of a positive whole number: the number, moved until it has fifty-three bits, and
rounded. It has one bit more if rounding carries. -/
def wholeSignificand (n : Nat) : Nat :=
  roundHalfEven (n * 2 ^ (52 - n.log2)) (2 ^ (n.log2 - 52))

/-- The magnitude bits of the double nearest to a natural number. -/
def wholeMagnitude (n : Nat) : Nat :=
  if n = 0 then 0 else min ((n.log2 + 1022) * 2 ^ 52 + wholeSignificand n) infiniteMagnitude

theorem scaled_one_sub (a b : Nat) : scaled 1 ((a : Int) - b) = (2 ^ (a - b), 2 ^ (b - a)) := by
  unfold scaled
  split
  · next h =>
      have hba : b - a = 0 := by omega
      have hab : ((a : Int) - b).toNat = a - b := by omega
      rw [hba, hab, Nat.one_shiftLeft, Nat.pow_zero]
  · next h =>
      have hab : a - b = 0 := by omega
      have hba : (-((a : Int) - b)).toNat = b - a := by omega
      rw [hab, hba, Nat.one_shiftLeft, Nat.pow_zero]

/-- A positive whole number, moved so far that it has its highest bit at some place. -/
theorem moved_bounds {n : Nat} (hn : n ≠ 0) (place : Nat) :
    2 ^ place * 2 ^ (n.log2 - place) ≤ n * 2 ^ (place - n.log2) ∧
      n * 2 ^ (place - n.log2) < 2 ^ (place + 1) * 2 ^ (n.log2 - place) := by
  have hlow : 2 ^ n.log2 ≤ n := Nat.log2_self_le hn
  have hhigh : n < 2 ^ (n.log2 + 1) := Nat.lt_log2_self
  have hsum : place + (n.log2 - place) = n.log2 + (place - n.log2) := by omega
  have hsum' : place + 1 + (n.log2 - place) = n.log2 + 1 + (place - n.log2) := by omega
  rw [← Nat.pow_add, ← Nat.pow_add, hsum, hsum', Nat.pow_add, Nat.pow_add]
  exact ⟨Nat.mul_le_mul_right _ hlow, Nat.mul_lt_mul_of_pos_right hhigh (Nat.two_pow_pos _)⟩

/-- A whole number keeps its bits from the highest one down to the fifty-third. -/
theorem roundingExponent_one {n : Nat} (hn : n ≠ 0) :
    roundingExponent n 1 = (n.log2 : Int) - 52 := by
  have hlog : Nat.log2 1 = 0 := by decide
  have hexp : -((n.log2 : Int) - (0 : Nat) - 53) = ((53 : Nat) : Int) - n.log2 := by omega
  have hlarge : ¬ n * 2 ^ (53 - n.log2) / (1 * 2 ^ (n.log2 - 53)) < 0x20_0000_0000_0000 := by
    rw [Nat.one_mul, Nat.not_lt, Nat.le_div_iff_mul_le (Nat.two_pow_pos _)]
    exact (moved_bounds hn 53).1
  unfold roundingExponent
  rw [hlog]
  simp only [hexp, scaled_one_sub, if_neg hlarge]
  omega

theorem ofRatio_one (negative : Bool) (n : Nat) :
    ofRatio negative n 1 = ofMagnitude negative (wholeMagnitude n) := by
  unfold ofRatio wholeMagnitude
  by_cases hn : n = 0
  · simp [hn, zero]
  · have hexp : -((n.log2 : Int) - 52) = ((52 : Nat) : Int) - n.log2 := by omega
    have hfield : ((n.log2 : Int) - 52 + 1074).toNat = n.log2 + 1022 := by omega
    rw [if_neg hn, if_neg hn]
    simp only [roundingExponent_one hn, hexp, scaled_one_sub, hfield, Nat.one_mul]
    rfl

/-! ### Order of magnitudes -/

theorem wholeSignificand_bounds {n : Nat} (hn : n ≠ 0) :
    2 ^ 52 ≤ wholeSignificand n ∧ wholeSignificand n ≤ 2 ^ 53 := by
  obtain ⟨hlow, hhigh⟩ := moved_bounds hn 52
  have hpos : 0 < 2 ^ (n.log2 - 52) := Nat.two_pow_pos _
  constructor
  · calc 2 ^ 52 = roundHalfEven (2 ^ 52 * 2 ^ (n.log2 - 52)) (2 ^ (n.log2 - 52)) :=
          (roundHalfEven_mul _ hpos).symm
      _ ≤ wholeSignificand n := roundHalfEven_mono hlow _
  · calc wholeSignificand n
        ≤ roundHalfEven (2 ^ 53 * 2 ^ (n.log2 - 52)) (2 ^ (n.log2 - 52)) :=
          roundHalfEven_mono hhigh.le _
      _ = 2 ^ 53 := roundHalfEven_mul _ hpos

theorem log2_le_of_lt {n : Nat} (hn : n < 2 ^ 53) : n.log2 ≤ 52 := by
  by_cases hzero : n = 0
  · simp [hzero]
  · have hlog : n.log2 < 53 := (Nat.log2_lt hzero).mpr hn
    omega

/-- Below `2 ^ 53` nothing is rounded. -/
theorem wholeSignificand_of_log2_le {n : Nat} (hlog : n.log2 ≤ 52) :
    wholeSignificand n = n * 2 ^ (52 - n.log2) := by
  have hfits : n.log2 - 52 = 0 := Nat.sub_eq_zero_of_le hlog
  rw [wholeSignificand, hfits, Nat.pow_zero, roundHalfEven_one]

/-- Nothing carries there either. -/
theorem wholeSignificand_lt_of_log2_le {n : Nat} (hn : n ≠ 0) (hlog : n.log2 ≤ 52) :
    wholeSignificand n < 2 ^ 53 := by
  have hfits : n.log2 - 52 = 0 := Nat.sub_eq_zero_of_le hlog
  obtain ⟨-, hhigh⟩ := moved_bounds hn 52
  rw [hfits, Nat.pow_zero, Nat.mul_one] at hhigh
  rw [wholeSignificand_of_log2_le hlog]
  exact hhigh

theorem log2_mono {n m : Nat} (h : n ≤ m) : n.log2 ≤ m.log2 := by
  simpa only [Nat.log2_eq_log_two] using Nat.log_mono_right h

theorem wholeMagnitude_mono {n m : Nat} (h : n ≤ m) : wholeMagnitude n ≤ wholeMagnitude m := by
  unfold wholeMagnitude
  by_cases hn : n = 0
  · simp [hn]
  · have hm : m ≠ 0 := by omega
    rw [if_neg hn, if_neg hm]
    rcases Nat.eq_or_lt_of_le (log2_mono h) with heq | hlt
    · have hround : wholeSignificand n ≤ wholeSignificand m := by
        unfold wholeSignificand
        rw [heq]
        exact roundHalfEven_mono (Nat.mul_le_mul_right _ h) _
      rw [heq]
      omega
    · obtain ⟨-, hhigh⟩ := wholeSignificand_bounds hn
      obtain ⟨hlow, -⟩ := wholeSignificand_bounds hm
      omega

/-- A number below `2 ^ 53` is told apart from the larger ones. -/
theorem wholeMagnitude_lt {n m : Nat} (h : n < m) (hn : n < 2 ^ 53) :
    wholeMagnitude n < wholeMagnitude m := by
  have hm : m ≠ 0 := by omega
  have hinf : infiniteMagnitude = 2047 * 2 ^ 52 := rfl
  obtain ⟨hlow, -⟩ := wholeSignificand_bounds hm
  unfold wholeMagnitude
  rw [if_neg hm]
  by_cases hzero : n = 0
  · rw [if_pos hzero]
    omega
  · have hlog : n.log2 ≤ 52 := log2_le_of_lt hn
    have hhigh : wholeSignificand n < 2 ^ 53 := wholeSignificand_lt_of_log2_le hzero hlog
    rw [if_neg hzero]
    rcases Nat.eq_or_lt_of_le (log2_mono h.le) with heq | hlt
    · have hround : wholeSignificand n < wholeSignificand m := by
        rw [wholeSignificand_of_log2_le hlog, wholeSignificand_of_log2_le (heq ▸ hlog), heq]
        exact Nat.mul_lt_mul_of_pos_right h (Nat.two_pow_pos _)
      omega
    · omega

theorem wholeMagnitude_pos {n : Nat} (hn : n ≠ 0) : 0 < wholeMagnitude n :=
  wholeMagnitude_lt (Nat.pos_of_ne_zero hn) (by decide)

theorem wholeMagnitude_le (n : Nat) : wholeMagnitude n ≤ infiniteMagnitude := by
  unfold wholeMagnitude
  split
  · exact Nat.zero_le _
  · exact Nat.min_le_right _ _

/-- The magnitude bits leave room for the sign. -/
theorem wholeMagnitude_lt_two_pow (n : Nat) : wholeMagnitude n < 2 ^ 63 :=
  Nat.lt_of_le_of_lt (wholeMagnitude_le n) (by decide)

/-! ### Order of integers -/

theorem isNegative_ofMagnitude (negative : Bool) {m : Nat} (hm : m < 2 ^ 63) :
    (ofMagnitude negative m).isNegative = negative := by
  cases negative <;> simp [isNegative, ofMagnitude] <;> omega

theorem magnitude_ofMagnitude (negative : Bool) {m : Nat} (hm : m < 2 ^ 63) :
    (ofMagnitude negative m).magnitude = m := by
  cases negative <;> simp [magnitude, ofMagnitude] <;> omega

theorem ofInt_eq (i : Int) : ofInt i = ofMagnitude (i < 0) (wholeMagnitude i.natAbs) :=
  ofRatio_one _ _

@[simp] theorem isNaN_ofInt (i : Int) : (ofInt i).isNaN = false := by
  rw [ofInt_eq, isNaN, magnitude_ofMagnitude _ (wholeMagnitude_lt_two_pow _),
    decide_eq_false_iff_not]
  exact Nat.not_lt.mpr (wholeMagnitude_le _)

theorem rank_ofInt (i : Int) :
    (ofInt i).rank =
      if i < 0 then -(wholeMagnitude i.natAbs : Int) else wholeMagnitude i.natAbs := by
  rw [ofInt_eq, rank, isNegative_ofMagnitude _ (wholeMagnitude_lt_two_pow _),
    magnitude_ofMagnitude _ (wholeMagnitude_lt_two_pow _)]
  simp only [decide_eq_true_eq]

theorem rank_ofInt_mono {i j : Int} (h : i ≤ j) : (ofInt i).rank ≤ (ofInt j).rank := by
  rw [rank_ofInt, rank_ofInt]
  by_cases hi : i < 0
  · rw [if_pos hi]
    by_cases hj : j < 0
    · have hmag : wholeMagnitude j.natAbs ≤ wholeMagnitude i.natAbs :=
        wholeMagnitude_mono (by omega)
      rw [if_pos hj]
      omega
    · rw [if_neg hj]
      omega
  · have hj : ¬ j < 0 := by omega
    have hmag : wholeMagnitude i.natAbs ≤ wholeMagnitude j.natAbs := wholeMagnitude_mono (by omega)
    rw [if_neg hi, if_neg hj]
    omega

section Small

variable {i j : Int} (hsmall : i.natAbs < 2 ^ 53 ∨ j.natAbs < 2 ^ 53)

include hsmall

/-- Integers are told apart where one of them is small. -/
theorem rank_ofInt_lt (h : i < j) : (ofInt i).rank < (ofInt j).rank := by
  rw [rank_ofInt, rank_ofInt]
  by_cases hi : i < 0
  · rw [if_pos hi]
    by_cases hj : j < 0
    · have hmag : wholeMagnitude j.natAbs < wholeMagnitude i.natAbs :=
        wholeMagnitude_lt (by omega) (by omega)
      rw [if_pos hj]
      omega
    · have hpos : 0 < wholeMagnitude i.natAbs := wholeMagnitude_pos (by omega)
      rw [if_neg hj]
      omega
  · have hj : ¬ j < 0 := by omega
    have hmag : wholeMagnitude i.natAbs < wholeMagnitude j.natAbs :=
      wholeMagnitude_lt (by omega) (by omega)
    rw [if_neg hi, if_neg hj]
    omega

theorem rank_ofInt_lt_iff : (ofInt i).rank < (ofInt j).rank ↔ i < j := by
  constructor
  · intro h
    by_contra hle
    exact absurd (rank_ofInt_mono (Int.not_lt.mp hle)) (Int.not_le.mpr h)
  · exact rank_ofInt_lt hsmall

theorem rank_ofInt_le_iff : (ofInt i).rank ≤ (ofInt j).rank ↔ i ≤ j := by
  rw [← Int.not_lt, ← Int.not_lt, rank_ofInt_lt_iff hsmall.symm]

theorem rank_ofInt_inj : (ofInt i).rank = (ofInt j).rank ↔ i = j := by
  rw [Int.le_antisymm_iff, Int.le_antisymm_iff, rank_ofInt_le_iff hsmall,
    rank_ofInt_le_iff hsmall.symm]

end Small

/-- The rank of an integer is that of no other double of an integer. -/
theorem rank_ofInt_eq_iff {i j : Int} : (ofInt i).rank = (ofInt j).rank ↔ ofInt i = ofInt j := by
  constructor
  · intro h
    rw [rank_ofInt, rank_ofInt] at h
    rw [ofInt_eq, ofInt_eq]
    by_cases hi : i < 0
    · have hpos : 0 < wholeMagnitude i.natAbs := wholeMagnitude_pos (by omega)
      by_cases hj : j < 0
      · rw [if_pos hi, if_pos hj] at h
        have hmag : wholeMagnitude i.natAbs = wholeMagnitude j.natAbs := by omega
        simp only [hi, hj, hmag]
      · rw [if_pos hi, if_neg hj] at h
        omega
    · by_cases hj : j < 0
      · have hpos : 0 < wholeMagnitude j.natAbs := wholeMagnitude_pos (by omega)
        rw [if_neg hi, if_pos hj] at h
        omega
      · rw [if_neg hi, if_neg hj] at h
        have hmag : wholeMagnitude i.natAbs = wholeMagnitude j.natAbs := by omega
        simp only [hi, hj, hmag]
  · intro h
    rw [h]

/-- Integers are equal as numbers when they have the same double. -/
theorem eq_ofInt_iff {i j : Int} : (ofInt i).eq (ofInt j) = true ↔ ofInt i = ofInt j := by
  rw [eq, isNaN_ofInt, isNaN_ofInt, ← rank_ofInt_eq_iff]
  simp

/-- Small integers have doubles of their own. -/
theorem ofInt_inj {i j : Int} (hsmall : i.natAbs < 2 ^ 53 ∨ j.natAbs < 2 ^ 53) :
    ofInt i = ofInt j ↔ i = j := by
  rw [← rank_ofInt_eq_iff, rank_ofInt_inj hsmall]

end Binary64

namespace Operator

/-- The operator on a linear order. -/
def compares {α : Type} [LinearOrder α] (op : Operator) (x y : α) : Bool :=
  match op with
  | .eq => x = y
  | .neq => x ≠ y
  | .gt => y < x
  | .gte => y ≤ x
  | .lt => x < y
  | .lte => x ≤ y

/-- Numbers are compared by their ranks. -/
theorem holds_eq_compares_rank (op : Operator) {x y : Binary64} (hx : x.isNaN = false)
    (hy : y.isNaN = false) : op.holds x y = op.compares x.rank y.rank := by
  cases op <;> simp [holds, compares, Binary64.eq, Binary64.lt, Binary64.le, hx, hy]

/-- Comparing the doubles of integers is comparing the integers, where one of them is small. -/
theorem holds_ofInt (op : Operator) {i j : Int} (hsmall : i.natAbs < 2 ^ 53 ∨ j.natAbs < 2 ^ 53) :
    op.holds (.ofInt i) (.ofInt j) = op.compares i j := by
  rw [holds_eq_compares_rank op (Binary64.isNaN_ofInt i) (Binary64.isNaN_ofInt j)]
  cases op <;>
    simp [compares, Binary64.rank_ofInt_inj hsmall, Binary64.rank_ofInt_lt_iff hsmall,
      Binary64.rank_ofInt_lt_iff hsmall.symm, Binary64.rank_ofInt_le_iff hsmall,
      Binary64.rank_ofInt_le_iff hsmall.symm]

end Operator

end RunRadar
