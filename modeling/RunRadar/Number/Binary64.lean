/-!
# RunRadar.Number.Binary64

Double-precision numbers as **their sixty-four bits**. Nothing here computes with
machine floating point: a double is a word, its finite magnitudes are the dyadic
rationals `significand * 2 ^ exponent`, and an exact quotient becomes a double by
one rounding to nearest with ties to even (`ofRatio`).

Order needs no arithmetic at all. The bits below the sign grow with the magnitude,
so `rank`, the signed magnitude bits, orders every double that is a number, and both
zeros have rank `0`. A comparison is a comparison of ranks, guarded by `isNaN`.
-/

namespace RunRadar

/-- A double-precision number: a sign bit, eleven exponent bits, fifty-two fraction bits. -/
structure Binary64 where
  bits : UInt64
deriving DecidableEq

namespace Binary64

/-! ### The fields of a word -/

/-- Whether the sign bit is set. -/
def isNegative (x : Binary64) : Bool := 0x8000_0000_0000_0000 ≤ x.bits.toNat

/-- The bits below the sign. -/
def magnitude (x : Binary64) : Nat := x.bits.toNat % 0x8000_0000_0000_0000

/-- The magnitude bits of an infinity. Larger ones mean "not a number". -/
def infiniteMagnitude : Nat := 0x7FF0_0000_0000_0000

def isNaN (x : Binary64) : Bool := infiniteMagnitude < x.magnitude

def isFinite (x : Binary64) : Bool := x.magnitude < infiniteMagnitude

/-- The double with the given sign and magnitude bits. -/
def ofMagnitude (negative : Bool) (magnitude : Nat) : Binary64 :=
  ⟨UInt64.ofNat (if negative then 0x8000_0000_0000_0000 + magnitude else magnitude)⟩

def zero (negative : Bool) : Binary64 := ofMagnitude negative 0

def infinity (negative : Bool) : Binary64 := ofMagnitude negative infiniteMagnitude

/-- The not-a-number that reading the word `nan` gives. -/
def nan : Binary64 := ofMagnitude false 0x7FF8_0000_0000_0000

/-- The same magnitude with the other sign. -/
def neg (x : Binary64) : Binary64 := ofMagnitude (!x.isNegative) x.magnitude

/-! ### Finite values -/

/-- The integer `m` in the finite value `m * 2 ^ e`. Below the least normal exponent the
hidden bit is absent. -/
def significand (x : Binary64) : Nat :=
  let fraction := x.magnitude % 0x10_0000_0000_0000
  if x.magnitude / 0x10_0000_0000_0000 = 0 then fraction else 0x10_0000_0000_0000 + fraction

/-- The exponent `e` in the finite value `m * 2 ^ e`. -/
def exponent (x : Binary64) : Int :=
  let field : Nat := x.magnitude / 0x10_0000_0000_0000
  if field = 0 then -1074 else (field : Int) - 1075

/-- Numerator and denominator of `m * 2 ^ e`. -/
def scaled (m : Nat) (e : Int) : Nat × Nat :=
  if 0 ≤ e then (m <<< e.toNat, 1) else (m, 1 <<< (-e).toNat)

/-- The magnitude of a finite double as a quotient of naturals. -/
def ratio (x : Binary64) : Nat × Nat := scaled x.significand x.exponent

/-! ### Rounding -/

/-- The integer nearest to `n / d`, the even one of two. -/
def roundHalfEven (n d : Nat) : Nat :=
  let q := n / d
  let r := n % d
  if 2 * r < d then q else if d < 2 * r then q + 1 else q + q % 2

/-- The exponent at which the significand of `n / d` has fifty-three bits, or the least
exponent there is. -/
def roundingExponent (n d : Nat) : Int :=
  let e : Int := (n.log2 : Int) - (d.log2 : Int) - 53
  let (p, q) := scaled 1 (-e)
  let e := if n * p / (d * q) < 0x20_0000_0000_0000 then e else e + 1
  max e (-1074)

/-- The double nearest to `n / d` in magnitude. A significand that rounds up to
`2 ^ 53` carries into the exponent field by plain addition, and what reaches the
exponent field of infinity is infinity. -/
def ofRatio (negative : Bool) (n d : Nat) : Binary64 :=
  if n = 0 then zero negative
  else
    let e := roundingExponent n d
    let (p, q) := scaled 1 (-e)
    let magnitude := (e + 1074).toNat * 0x10_0000_0000_0000 + roundHalfEven (n * p) (d * q)
    ofMagnitude negative (min magnitude infiniteMagnitude)

/-- The double nearest to an integer. -/
def ofInt (i : Int) : Binary64 := ofRatio (i < 0) i.natAbs 1

/-- The double nearest to a natural number. -/
def ofNat (n : Nat) : Binary64 := ofRatio false n 1

/-- The rounded product of two finite doubles. -/
def mul (x y : Binary64) : Binary64 :=
  let (n, d) := x.ratio
  let (n', d') := y.ratio
  ofRatio (x.isNegative != y.isNegative) (n * n') (d * d')

/-- The rounded quotient of two finite doubles, the second not zero. -/
def div (x y : Binary64) : Binary64 :=
  let (n, d) := x.ratio
  let (n', d') := y.ratio
  ofRatio (x.isNegative != y.isNegative) (n * d') (d * n')

/-- The double nearest to `digits * 10 ^ exponent`. Exponents far outside the range of
doubles are settled by the number of digits alone. -/
def ofDecimal (negative : Bool) (digits : Nat) (exponent : Int) : Binary64 :=
  if digits = 0 then zero negative
  else
    let size : Int := (Nat.toDigits 10 digits).length
    if 400 < exponent + size then infinity negative
    else if exponent + size < -400 then zero negative
    else if 0 ≤ exponent then ofRatio negative (digits * Nat.pow 10 exponent.toNat) 1
    else ofRatio negative digits (Nat.pow 10 (-exponent).toNat)

/-! ### Order -/

/-- Position in the order of numbers. Both zeros have rank `0`. -/
def rank (x : Binary64) : Int :=
  if x.isNegative then -(x.magnitude : Int) else x.magnitude

/-- Equality of numbers: the zeros are equal, and not-a-number equals nothing. -/
def eq (x y : Binary64) : Bool := !x.isNaN && !y.isNaN && decide (x.rank = y.rank)

/-- Less-than of numbers, false beside a not-a-number. -/
def lt (x y : Binary64) : Bool := !x.isNaN && !y.isNaN && decide (x.rank < y.rank)

/-- At-most of numbers, false beside a not-a-number. -/
def le (x y : Binary64) : Bool := !x.isNaN && !y.isNaN && decide (x.rank ≤ y.rank)

end Binary64

end RunRadar
