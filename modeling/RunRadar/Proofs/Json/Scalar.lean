import Mathlib.Algebra.Group.Nat.Defs
import RunRadar.Json.Reader
import RunRadar.Json.Writer

/-!
# RunRadar.Proofs.Json.Scalar

**Strings and whole numbers** are read as they were written, whatever text stands behind them. A
string ends at its own quotation mark. A number has no end of its own, so what stands behind it
must not continue it.
-/

namespace RunRadar.Json

open Text (hexDigit hexValue?_hexDigit)

/-! ### Strings -/

/-- A control character is read from its code. -/
theorem hexValue4?_control {n : Nat} (h : n < 0x20) :
    hexValue4? '0' '0' (hexDigit (n / 16)) (hexDigit (n % 16)) = some n := by
  have hzero : Text.hexValue? '0' = some 0 := rfl
  have hhigh := hexValue?_hexDigit (n / 16) (by omega)
  have hlow := hexValue?_hexDigit (n % 16) (by omega)
  simp only [hexValue4?, hzero, hhigh, hlow, Option.bind_eq_bind, Option.bind_some,
    Option.some.injEq]
  omega

/-- A character is read from its one-letter escape. -/
theorem readString_letter {c letter : Char} (hu : letter ≠ 'u')
    (h : simpleEscape? letter = some c) (rest : List Char) :
    readString ('\\' :: letter :: rest) = (readString rest).map fun r => (c :: r.1, r.2) := by
  rw [readString, h]
  · intro a b c' d tail heq
    exact absurd heq hu

/-- A character that needs no escape is read as itself. -/
theorem readString_plain {c : Char} (hquote : c ≠ '"') (hslash : c ≠ '\\')
    (hcontrol : ¬c.toNat < 0x20) (rest : List Char) :
    readString (c :: rest) = (readString rest).map fun r => (c :: r.1, r.2) := by
  rw [readString, if_neg (by simp [hslash, hcontrol])]
  · exact hquote
  · intro a b c' d tail heq
    exact absurd heq hslash
  · intro letter tail heq
    exact absurd heq hslash

/-- An escaped character is read as itself. -/
theorem readString_escape (c : Char) (rest : List Char) :
    readString (escape c ++ rest) = (readString rest).map fun r => (c :: r.1, r.2) := by
  unfold escape
  iterate 7
    split
    · subst c; exact readString_letter (by decide) rfl rest
  split
  · next hcontrol =>
      -- the code of a control character is not the code of a surrogate
      have hhigh : ¬(0xD800 ≤ c.toNat ∧ c.toNat < 0xDC00) := by omega
      have hlow : ¬(0xDC00 ≤ c.toNat ∧ c.toNat < 0xE000) := by omega
      simp only [List.cons_append, List.nil_append, readString, hexValue4?_control hcontrol,
        if_neg hhigh, if_neg hlow, Char.ofNat_toNat]
  · next hquote hslash _ _ _ _ _ hcontrol => exact readString_plain hquote hslash hcontrol rest

/-- A written string is read as itself. -/
theorem readString_flatMap_escape (text rest : List Char) :
    readString (text.flatMap escape ++ '"' :: rest) = some (text, rest) := by
  induction text with
  | nil => simp [readString]
  | cons c text ih =>
      rw [List.flatMap_cons, List.append_assoc, readString_escape, ih]
      rfl

/-! ### Whole numbers -/

/-- A text that does not continue a number. -/
def EndsNumber (rest : List Char) : Prop :=
  ∀ c ∈ rest.head?, c.isDigit = false ∧ c ≠ '.' ∧ c ≠ 'e' ∧ c ≠ 'E'

theorem endsNumber_nil : EndsNumber [] := by simp [EndsNumber]

theorem endsNumber_cons {c : Char} (h : c = ',' ∨ c = ']' ∨ c = '\x7d') (rest : List Char) :
    EndsNumber (c :: rest) := by
  intro c' hc'
  obtain rfl : c = c' := Option.some.inj hc'
  rcases h with rfl | rfl | rfl <;> decide

/-- Digits end where the number ends. -/
theorem spanDigits_append {digits rest : List Char} (hd : ∀ c ∈ digits, c.isDigit = true)
    (h : EndsNumber rest) : spanDigits (digits ++ rest) = (digits, rest) := by
  have hrest : rest.takeWhile Char.isDigit = [] ∧ rest.dropWhile Char.isDigit = rest := by
    cases rest with
    | nil => simp
    | cons c rest =>
        have hc := (h c rfl).1
        simp [hc]
  rw [spanDigits, List.takeWhile_append_of_pos hd, List.dropWhile_append_of_pos hd, hrest.1,
    hrest.2, List.append_nil]

/-- The digits of a number of sixty-four bits all fit into a significand. -/
theorem fitDigits_eq {digits : List Char} {significand : Nat}
    (h : Nat.ofDigitChars 10 digits significand < UInt64.size) :
    fitDigits significand digits = (Nat.ofDigitChars 10 digits significand, digits.length) := by
  induction digits generalizing significand with
  | nil => simp [fitDigits]
  | cons c digits ih =>
      rw [Nat.ofDigitChars_cons] at h ⊢
      have hnext : 10 * significand + (c.toNat - '0'.toNat) < UInt64.size := by
        rw [Nat.ofDigitChars_eq_ofDigitChars_zero] at h
        have hpow : 1 ≤ 10 ^ digits.length := Nat.one_le_pow _ _ (by decide)
        have := Nat.le_mul_of_pos_left (10 * significand + (c.toNat - '0'.toNat)) hpow
        omega
      simp only [fitDigits, if_pos hnext, ih h, List.length_cons]

/-- Decimal digits of a positive number do not begin with a zero. -/
theorem head?_toDigits_ne_zero {n : Nat} (h : 0 < n) :
    (Nat.toDigits 10 n).head? ≠ some '0' := by
  induction n using Nat.strongRecOn with
  | ind n ih =>
      by_cases hn : n < 10
      · rw [Nat.toDigits_of_lt_base hn]
        simp only [List.head?_cons, ne_eq, Option.some.injEq, Nat.digitChar_eq_zero]
        omega
      · have hne : Nat.toDigits 10 (n / 10) ≠ [] := Nat.toDigits_ne_nil
        rw [Nat.toDigits_of_base_le (by decide) (Nat.le_of_not_lt hn), List.head?_append,
          List.head?_eq_some_head hne, Option.some_or, ← List.head?_eq_some_head hne]
        exact ih (n / 10) (by omega) (by omega)

/-- Decimal digits are a number: there is one, and no zero in front of another. -/
theorem toDigits_wellFormed (n : Nat) :
    ¬(Nat.toDigits 10 n = [] ∨
      (Nat.toDigits 10 n).head? = some '0' ∧ (Nat.toDigits 10 n).length ≠ 1) := by
  rintro (h | ⟨hhead, hlength⟩)
  · exact Nat.toDigits_ne_nil h
  · rcases Nat.eq_zero_or_pos n with rfl | hn
    · exact hlength rfl
    · exact head?_toDigits_ne_zero hn hhead

/-- The digits of a whole number that fits stand for it. -/
theorem numberOf?_toDigits {negative : Bool} {n : Nat} {i : Int}
    (hi : i = if negative then -(n : Int) else n) (hzero : ¬(negative = true ∧ n = 0))
    (fits : Fits i) :
    numberOf? negative (Nat.toDigits 10 n) none none = some (.integer i fits) := by
  have hn : n < UInt64.size := by
    unfold Fits at fits
    unfold UInt64.size
    cases negative <;> simp at hi <;> omega
  have hfit : fitDigits 0 (Nat.toDigits 10 n) = (n, (Nat.toDigits 10 n).length) := by
    rw [fitDigits_eq (by rwa [Nat.ofDigitChars_ten_toDigits]), Nat.ofDigitChars_ten_toDigits]
  subst hi
  simp only [numberOf?, hfit, hzero, not_false_eq_true, and_self, if_true, dif_pos fits]

/-- No fraction begins where a number ends. -/
theorem readFraction_of_endsNumber {rest : List Char} (h : EndsNumber rest) :
    readFraction rest = some (none, rest) := by
  cases rest with
  | nil => rfl
  | cons c rest =>
      rw [readFraction]
      intro cs heq
      exact (h c rfl).2.1 (List.cons.inj heq).1

/-- No exponent begins where a number ends. -/
theorem readExponent_of_endsNumber {rest : List Char} (h : EndsNumber rest) :
    readExponent rest = some (none, rest) := by
  cases rest with
  | nil => rfl
  | cons c rest =>
      obtain ⟨-, -, he, hE⟩ := h c rfl
      simp only [readExponent, he, hE, or_self, if_false]

/-- The sign in front of a whole number. -/
def sign (negative : Bool) : List Char := if negative then ['-'] else []

/-- The digits of a whole number, behind its sign, are read up to their end. -/
theorem readNumber_toDigits {negative : Bool} {n : Nat} {i : Int} {rest : List Char}
    (hi : i = if negative then -(n : Int) else n) (hzero : ¬(negative = true ∧ n = 0))
    (fits : Fits i) (h : EndsNumber rest) :
    readNumber (sign negative ++ (Nat.toDigits 10 n ++ rest)) =
      some (.integer i fits, rest) := by
  have hdigit : ∀ c ∈ Nat.toDigits 10 n, c.isDigit = true :=
    fun c hc => Nat.isDigit_of_mem_toDigits (by decide) (by decide) hc
  have hspan := spanDigits_append hdigit h
  have hwhole := toDigits_wellFormed n
  have hnumber := numberOf?_toDigits hi hzero fits
  unfold readNumber
  cases negative with
  | true =>
      simp only [sign, if_true, List.singleton_append, hspan, if_neg hwhole,
        readFraction_of_endsNumber h, readExponent_of_endsNumber h, hnumber, Option.bind_eq_bind,
        Option.bind_some]
  | false =>
      simp only [sign, Bool.false_eq_true, if_false, List.nil_append]
      split
      · next cs heq =>
          -- the first digit would be a sign
          obtain ⟨d, ds, hds⟩ := List.exists_cons_of_ne_nil (Nat.toDigits_ne_nil (n := n) (b := 10))
          rw [hds] at heq
          have hd : d = '-' := (List.cons.inj heq).1
          have hisDigit := hdigit d (by simp [hds])
          rw [hd] at hisDigit
          exact absurd hisDigit (by decide)
      · simp only [hspan, if_neg hwhole, readFraction_of_endsNumber h,
          readExponent_of_endsNumber h, hnumber, Option.bind_eq_bind, Option.bind_some]

/-- A whole number is written as its sign and its digits. -/
theorem write_integer (i : Int) (fits : Fits i) (rest : List Char) :
    (Number.integer i fits).write rest =
      sign (decide (i < 0)) ++ (Nat.toDigits 10 i.natAbs ++ rest) := by
  rw [Number.write, Int.toString_eq_repr, Int.repr_eq_if]
  by_cases hi : i < 0
  · have habs : (-i).toNat = i.natAbs := by omega
    simp [sign, hi, habs, Int.not_le.mpr hi]
  · have habs : i.toNat = i.natAbs := by omega
    simp [sign, hi, habs, Int.not_lt.mp hi]

/-- A whole number is read as it was written. -/
theorem readNumber_write {i : Int} {fits : Fits i} {rest : List Char} (h : EndsNumber rest) :
    readNumber ((Number.integer i fits).write rest) = some (.integer i fits, rest) := by
  rw [write_integer]
  refine readNumber_toDigits ?_ ?_ fits h
  · by_cases hi : i < 0
    · rw [decide_eq_true hi, if_pos rfl]
      omega
    · rw [decide_eq_false hi, if_neg Bool.false_ne_true]
      omega
  · rintro ⟨hnegative, hzero⟩
    have hi := of_decide_eq_true hnegative
    omega

end RunRadar.Json
