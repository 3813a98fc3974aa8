import RunRadar.Number.Binary64

/-!
# RunRadar.Number.Reading

Numbers **written as plain text**: whole numbers within bounds, and doubles. Neither
reader skips blanks, and both want the whole text. A double may also be written `inf`,
`infinity` or `nan`, in any mixture of cases; everything else is digits with at most
one point and at most one exponent, and is rounded once to the nearest double.
-/

namespace RunRadar

/-! ### Digits -/

/-- The digits a text begins with, and the rest. -/
def spanDigits (cs : List Char) : List Char × List Char :=
  (cs.takeWhile Char.isDigit, cs.dropWhile Char.isDigit)

/-- The number that decimal digits stand for. -/
def digitsValue (cs : List Char) : Nat :=
  cs.foldl (fun n c => 10 * n + (c.toNat - '0'.toNat)) 0

/-- A non-empty text of digits. -/
def readDigits? (cs : List Char) : Option Nat :=
  if cs ≠ [] ∧ cs.all Char.isDigit then some (digitsValue cs) else none

/-! ### Whole numbers -/

/-- A natural number below `bound`, perhaps with a plus sign. -/
def readNat? (bound : Nat) (text : String) : Option Nat := do
  let digits := match text.toList with
    | '+' :: rest => rest
    | cs => cs
  let n ← readDigits? digits
  if n < bound then some n else none

/-- A whole number of sixty-four bits with a sign, perhaps written with one. -/
def readInt64? (text : String) : Option Int := do
  let (negative, digits) := match text.toList with
    | '+' :: rest => (false, rest)
    | '-' :: rest => (true, rest)
    | cs => (false, cs)
  let n ← readDigits? digits
  let i : Int := if negative then -(n : Int) else n
  if -0x8000_0000_0000_0000 ≤ i ∧ i < 0x8000_0000_0000_0000 then some i else none

/-! ### Doubles -/

/-- The exponent a decimal number may end with: nothing at all is the exponent zero. -/
def readExponent? : List Char → Option Int
  | [] => some 0
  | e :: rest =>
    if e = 'e' ∨ e = 'E' then
      match rest with
      | '+' :: digits => (readDigits? digits).map Int.ofNat
      | '-' :: digits => (readDigits? digits).map fun n => -(n : Int)
      | digits => (readDigits? digits).map Int.ofNat
    else none

/-- An unsigned decimal number: digits before or after the point, or both. -/
def readDecimal? (negative : Bool) (cs : List Char) : Option Binary64 := do
  let (whole, rest) := spanDigits cs
  let (fraction, rest) := match rest with
    | '.' :: rest => spanDigits rest
    | rest => ([], rest)
  if whole = [] ∧ fraction = [] then none
  else
    let exponent ← readExponent? rest
    some (.ofDecimal negative (digitsValue (whole ++ fraction)) (exponent - fraction.length))

/-- A double as text: an optional sign, then a word or a decimal number. -/
def readDouble? (text : String) : Option Binary64 :=
  let (negative, cs) := match text.toList with
    | '+' :: rest => (false, rest)
    | '-' :: rest => (true, rest)
    | cs => (false, cs)
  let word := String.ofList (cs.map Char.toLower)
  if word = "inf" ∨ word = "infinity" then some (.infinity negative)
  else if word = "nan" then some (if negative then Binary64.nan.neg else .nan)
  else readDecimal? negative cs

end RunRadar
