/-!
# RunRadar.Filter.Card

The **checksum of card numbers**. From the last digit on, every second digit counts double,
with nine taken off what exceeds nine, and the sum has to be a multiple of ten.
-/

namespace RunRadar.Filter.Card

/-- The digits of a text, all else being left out. -/
def digits (text : List Char) : List Nat :=
  (text.filter Char.isDigit).map fun c => c.toNat - '0'.toNat

/-- What a digit adds at a place that counts double. -/
def doubled (d : Nat) : Nat := if 9 < 2 * d then 2 * d - 9 else 2 * d

/-- The sum over digits from the last one on, when `double` says whether the first of them
counts double. -/
def sumFrom (double : Bool) : List Nat → Nat
  | [] => 0
  | d :: ds => (if double then doubled d else d) + sumFrom (!double) ds

/-- The checksum of digits in their written order. -/
def checksum (ds : List Nat) : Nat := sumFrom false ds.reverse

/-- Whether a text has from thirteen to nineteen digits and a checksum that is a multiple of
ten. -/
def isValid (text : List Char) : Bool :=
  let ds := digits text
  13 ≤ ds.length && ds.length ≤ 19 && checksum ds % 10 = 0

end RunRadar.Filter.Card
