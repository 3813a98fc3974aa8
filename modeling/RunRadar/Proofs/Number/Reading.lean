import Mathlib.Algebra.Group.Int.Defs
import Mathlib.Algebra.Group.Nat.Defs
import RunRadar.Json.Basic
import RunRadar.Number.Reading
import RunRadar.Proofs.Number.Whole

/-!
# RunRadar.Proofs.Number.Reading

**What texts read as numbers**. A whole number of sixty-four bits is written in digits, with a sign
in front or without one (`readInt64?_eq_some_iff`). A text that reads as a double reads as a number
unless it is the word for what is not a number (`isNaN_readDouble?_iff`): digits may overflow, but
rounding stops at infinity.
-/

namespace RunRadar

/-! ### Signs -/

/-- A text consists of a sign, or none, and the rest. -/
inductive Signed : (negative : Bool) → (rest text : List Char) → Prop
  | none (cs : List Char) : Signed false cs cs
  | plus (cs : List Char) : Signed false cs ('+' :: cs)
  | minus (cs : List Char) : Signed true cs ('-' :: cs)

/-- Takes the sign off a text, if there is one. -/
def splitSign : List Char → Bool × List Char
  | '+' :: rest => (false, rest)
  | '-' :: rest => (true, rest)
  | cs => (false, cs)

theorem signed_splitSign (text : List Char) :
    Signed (splitSign text).1 (splitSign text).2 text := by
  unfold splitSign
  split
  · exact .plus _
  · exact .minus _
  · exact .none _

/-- Where the rest begins with no sign, it is what is left when the sign is taken off. -/
theorem Signed.splitSign_eq {negative : Bool} {rest text : List Char}
    (h : Signed negative rest text) (hplus : rest.head? ≠ some '+')
    (hminus : rest.head? ≠ some '-') : splitSign text = (negative, rest) := by
  cases h with
  | plus => rfl
  | minus => rfl
  | none =>
      unfold splitSign
      split
      · exact absurd rfl hplus
      · exact absurd rfl hminus
      · rfl

/-! ### Whole numbers -/

theorem readDigits?_eq_some_iff {cs : List Char} {n : Nat} :
    readDigits? cs = some n ↔
      cs ≠ [] ∧ (∀ c ∈ cs, c.isDigit = true) ∧ n = digitsValue cs := by
  unfold readDigits?
  rw [Option.ite_none_right_eq_some, List.all_eq_true, Option.some.injEq, and_assoc,
    eq_comm (a := n)]

theorem toList_toString (n : Nat) : (toString n).toList = Nat.toDigits 10 n := by
  simp

theorem readDigits?_toDigits (n : Nat) : readDigits? (Nat.toDigits 10 n) = some n := by
  refine readDigits?_eq_some_iff.mpr ⟨Nat.toDigits_ne_nil, fun c hc => ?_, ?_⟩
  · exact Nat.isDigit_of_mem_toDigits (by decide) (by decide) hc
  · exact (Nat.ofDigitChars_ten_toDigits (n := n)).symm

/-- A number within its bounds is read from what is written for it. -/
theorem readNat?_toString {bound n : Nat} (h : n < bound) :
    readNat? bound (toString n) = some n := by
  have hplus (rest : List Char) : Nat.toDigits 10 n ≠ '+' :: rest := by
    intro hrest
    have hdigit : Char.isDigit '+' = true := Nat.isDigit_of_mem_toDigits (n := n) (b := 10)
      (by decide) (by decide) (hrest ▸ List.mem_cons_self)
    exact absurd hdigit (by decide)
  simp only [readNat?, toList_toString, readDigits?_toDigits]
  exact if_pos h

/-- The whole number of a sign and digits. -/
def signedValue (negative : Bool) (digits : List Char) : Int :=
  if negative then -(digitsValue digits : Int) else digitsValue digits

/-- A whole number of sixty-four bits is read from digits, perhaps with a sign in front. -/
theorem readInt64?_eq_some_iff {text : String} {i : Int} :
    readInt64? text = some i ↔ ∃ negative digits, Signed negative digits text.toList ∧
      digits ≠ [] ∧ (∀ c ∈ digits, c.isDigit = true) ∧ i = signedValue negative digits ∧
        -2 ^ 63 ≤ i ∧ i < 2 ^ 63 := by
  have hread : readInt64? text = (readDigits? (splitSign text.toList).2).bind fun n =>
      let i : Int := if (splitSign text.toList).1 then -(n : Int) else n
      if -2 ^ 63 ≤ i ∧ i < 2 ^ 63 then some i else none := rfl
  rw [hread]
  simp only [Option.bind_eq_some_iff, readDigits?_eq_some_iff, Option.ite_none_right_eq_some,
    Option.some.injEq]
  constructor
  · rintro ⟨n, ⟨hne, hdigits, rfl⟩, hbounds, rfl⟩
    exact ⟨_, _, signed_splitSign text.toList, hne, hdigits, rfl, hbounds⟩
  · rintro ⟨negative, digits, hsigned, hne, hdigits, rfl, hbounds⟩
    have hhead (c : Char) (hc : c.isDigit = false) : digits.head? ≠ some c := by
      intro h
      rw [hdigits c (List.mem_of_head? h)] at hc
      cases hc
    rw [hsigned.splitSign_eq (hhead _ rfl) (hhead _ rfl)]
    exact ⟨_, ⟨hne, hdigits, rfl⟩, hbounds, rfl⟩

/-! ### What is not a number -/

namespace Binary64

theorem isNaN_ofMagnitude {negative : Bool} {m : Nat} (hm : m ≤ infiniteMagnitude) :
    (ofMagnitude negative m).isNaN = false := by
  have hroom : m < 2 ^ 63 := Nat.lt_of_le_of_lt hm (by decide)
  rw [isNaN, magnitude_ofMagnitude _ hroom, decide_eq_false_iff_not]
  exact Nat.not_lt.mpr hm

@[simp] theorem isNaN_zero (negative : Bool) : (zero negative).isNaN = false :=
  isNaN_ofMagnitude (Nat.zero_le _)

@[simp] theorem isNaN_infinity (negative : Bool) : (infinity negative).isNaN = false :=
  isNaN_ofMagnitude (Nat.le_refl _)

/-- Rounding a quotient gives a number. -/
@[simp] theorem isNaN_ofRatio (negative : Bool) (n d : Nat) :
    (ofRatio negative n d).isNaN = false := by
  unfold ofRatio
  split
  · exact isNaN_zero _
  · exact isNaN_ofMagnitude (Nat.min_le_right _ _)

@[simp] theorem isNaN_ofNat (n : Nat) : (ofNat n).isNaN = false := isNaN_ofRatio _ _ _

@[simp] theorem isNaN_ofDecimal (negative : Bool) (digits : Nat) (exponent : Int) :
    (ofDecimal negative digits exponent).isNaN = false := by
  unfold ofDecimal
  dsimp only
  split_ifs <;> simp

theorem isNaN_of_isFinite {x : Binary64} (h : x.isFinite = true) : x.isNaN = false := by
  unfold isFinite at h
  unfold isNaN
  rw [decide_eq_true_eq] at h
  rw [decide_eq_false_iff_not]
  omega

end Binary64

/-- A JSON number is a number. -/
@[simp] theorem Json.Number.isNaN_toDouble (n : Json.Number) : n.toDouble.isNaN = false := by
  cases n with
  | integer i _ => exact Binary64.isNaN_ofInt i
  | double x finite => exact Binary64.isNaN_of_isFinite finite

theorem isNaN_of_readDecimal? {negative : Bool} {cs : List Char} {x : Binary64}
    (h : readDecimal? negative cs = some x) : x.isNaN = false := by
  simp only [readDecimal?] at h
  split at h
  all_goals
    obtain ⟨-, h⟩ := Option.ite_none_left_eq_some.mp h
    obtain ⟨exponent, -, hx⟩ := Option.bind_eq_some_iff.mp h
    cases hx
    exact Binary64.isNaN_ofDecimal _ _ _

/-- A text is the word for what is not a number, in any mixture of cases and perhaps with a sign in
front. -/
def SaysNaN (text : String) : Prop :=
  ∃ negative word, Signed negative word text.toList ∧ word.map Char.toLower = ['n', 'a', 'n']

theorem saysNaN_iff {text : String} :
    SaysNaN text ↔ (splitSign text.toList).2.map Char.toLower = ['n', 'a', 'n'] := by
  constructor
  · rintro ⟨negative, word, hsigned, hword⟩
    have hhead (c : Char) (hc : c.toLower ≠ 'n') : word.head? ≠ some c := by
      intro h
      have hlower := congrArg List.head? hword
      rw [List.head?_map, h] at hlower
      exact hc (Option.some.inj hlower)
    rw [hsigned.splitSign_eq (hhead _ (by decide)) (hhead _ (by decide))]
    exact hword
  · intro hword
    exact ⟨_, _, signed_splitSign text.toList, hword⟩

instance (text : String) : Decidable (SaysNaN text) := decidable_of_iff _ saysNaN_iff.symm

/-- A text that reads as a double reads as a number unless it says otherwise. -/
theorem isNaN_readDouble?_iff {text : String} {x : Binary64} (h : readDouble? text = some x) :
    x.isNaN = true ↔ SaysNaN text := by
  rw [saysNaN_iff]
  have hread : readDouble? text =
      let word := String.ofList ((splitSign text.toList).2.map Char.toLower)
      if word = "inf" ∨ word = "infinity" then some (.infinity (splitSign text.toList).1)
      else if word = "nan" then
        some (if (splitSign text.toList).1 then Binary64.nan.neg else .nan)
      else readDecimal? (splitSign text.toList).1 (splitSign text.toList).2 := rfl
  have hnan : String.ofList ((splitSign text.toList).2.map Char.toLower) = "nan" ↔
      (splitSign text.toList).2.map Char.toLower = ['n', 'a', 'n'] := by
    rw [← String.toList_inj, String.toList_ofList]
    rfl
  rw [hread] at h
  rw [← hnan]
  dsimp only at h
  generalize String.ofList ((splitSign text.toList).2.map Char.toLower) = word at h ⊢
  split at h
  · next hinf =>
      cases h
      rcases hinf with rfl | rfl <;> simp
  · split at h
    · next hword =>
        cases h
        rw [hword]
        cases (splitSign text.toList).1 <;> decide
    · next hword => simp [hword, isNaN_of_readDecimal? h]

end RunRadar
