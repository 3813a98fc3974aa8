import RunRadar.Number.Binary64

/-!
# RunRadar.Number.Shortest

The **fewest decimal digits that read back** as a given double, and the two layouts
in which they are written. For one digit, two digits and so on, the two neighbours of
the value on that decimal grid are tested against the interval of reals that round to
the double; the first grid with a neighbour inside wins, and of two neighbours the
nearer.

`jsonText` always shows that the number is a double, by a fraction or an exponent;
`plainText` never uses an exponent and writes a whole number as an integer.
-/

namespace RunRadar.Binary64

/-! ### Digits -/

/-- A positive decimal number `digits * 10 ^ exponent`. -/
structure Decimal where
  digits : Nat
  exponent : Int
deriving DecidableEq

/-- The reals that round to a double, over the common denominator `den`: the value itself
and the two midpoints, which belong to the interval when `closed`. -/
structure Interval where
  low : Nat
  value : Nat
  high : Nat
  den : Nat
  closed : Bool

/-- The rounding interval of a finite double that is not zero. Below a power of two the
neighbouring doubles lie twice as close. -/
def interval (x : Binary64) : Interval :=
  let m := x.significand
  let (p, den) := scaled 1 (x.exponent - 2)
  let narrow := m = 0x10_0000_0000_0000 ∧ -1074 < x.exponent
  { low := (if narrow then 4 * m - 1 else 4 * m - 2) * p
    value := 4 * m * p
    high := (4 * m + 2) * p
    den
    closed := m % 2 = 0 }

/-- Whether `n / d` rounds to the double of the interval. -/
def Interval.holds (i : Interval) (n d : Nat) : Bool :=
  let x := n * i.den
  if i.closed then i.low * d ≤ x && x ≤ i.high * d else i.low * d < x && x < i.high * d

/-- The power of ten at or below `n / d`, for a positive quotient. -/
def decimalExponent (n d : Nat) : Int :=
  if d ≤ n then ((Nat.toDigits 10 (n / d)).length : Int) - 1
  else
    let guess := (d.log2 - n.log2) * 30103 / 100000
    if d ≤ n * Nat.pow 10 guess then -(guess : Int)
    else if d ≤ n * Nat.pow 10 (guess + 1) then -(guess + 1 : Int)
    else -(guess + 2 : Int)

/-- The neighbour of the value on the grid of multiples of `10 ^ unit` that lies in the
interval, the nearer of two, the even one of two equally near. -/
def Interval.onGrid? (i : Interval) (unit : Int) : Option Decimal :=
  let (p, q) := if 0 ≤ unit then (Nat.pow 10 unit.toNat, 1) else (1, Nat.pow 10 (-unit).toNat)
  let n := i.value * q
  let d := i.den * p
  let below := n / d
  let inside (k : Nat) : Bool := i.holds (k * p) q
  let nearest := roundHalfEven n d
  if inside nearest then some ⟨nearest, unit⟩
  else if inside below then some ⟨below, unit⟩
  else if inside (below + 1) then some ⟨below + 1, unit⟩
  else none

/-- The first grid with a hit, from the coarsest one on. -/
def Interval.search (i : Interval) (top : Int) : Nat → Nat → Decimal
  | 0, _ => ⟨0, 0⟩
  | tries + 1, size =>
    match i.onGrid? (top - size) with
    | some d => d
    | none => i.search top tries (size + 1)

/-- Moves trailing zeros of the digits into the exponent. -/
def Decimal.trim (d : Decimal) : Nat → Decimal
  | 0 => d
  | fuel + 1 =>
    if d.digits ≠ 0 ∧ d.digits % 10 = 0 then
      Decimal.trim ⟨d.digits / 10, d.exponent + 1⟩ fuel
    else d

/-- The shortest decimal that reads back as the given finite, non-zero double.
Seventeen digits always suffice. -/
def shortest (x : Binary64) : Decimal :=
  let i := x.interval
  (i.search (decimalExponent i.value i.den) 18 0).trim 20

/-! ### Layouts -/

private def zeros (n : Nat) : String := String.ofList (List.replicate n '0')

/-- The digits with a point after `point` of them, zeros filling up on either side.
A whole number gets no point. -/
def positional (digits : String) (point : Int) : String :=
  let n : Int := digits.length
  if point ≤ 0 then "0." ++ zeros (-point).toNat ++ digits
  else if n ≤ point then digits ++ zeros (point - n).toNat
  else (digits.take point.toNat).toString ++ "." ++ (digits.drop point.toNat).toString

/-- One digit, a point before any others, and a signed exponent. -/
def scientific (digits : String) (exponent : Int) : String :=
  let head := (digits.take 1).toString
  let tail := (digits.drop 1).toString
  let mantissa := if tail.isEmpty then head else head ++ "." ++ tail
  let sign := if exponent < 0 then "-" else "+"
  mantissa ++ "e" ++ sign ++ toString exponent.natAbs

private def sign (x : Binary64) : String := if x.isNegative then "-" else ""

/-- How a finite double stands in JSON text: positional from `0.00001` up to below
`10 ^ 16`, where a whole number keeps `.0`, and with an exponent outside. -/
def jsonText (x : Binary64) : String :=
  if x.magnitude = 0 then x.sign ++ "0.0"
  else
    let d := x.shortest
    let digits := toString d.digits
    let point : Int := digits.length + d.exponent
    if -5 < point ∧ point ≤ 16 then
      let whole := if (digits.length : Int) ≤ point then ".0" else ""
      x.sign ++ positional digits point ++ whole
    else x.sign ++ scientific digits (point - 1)

/-- A double in plain decimal digits: no exponent, and no fraction on whole numbers. -/
def plainText (x : Binary64) : String :=
  if x.isNaN then "NaN"
  else if !x.isFinite then x.sign ++ "inf"
  else if x.magnitude = 0 then x.sign ++ "0"
  else
    let d := x.shortest
    let digits := toString d.digits
    x.sign ++ positional digits (digits.length + d.exponent)

end RunRadar.Binary64
