/-!
# RunRadar.Text.Ranges

Sets of characters as **increasing lists of ranges** of code points, the form in which
the properties of characters are published. Membership stops at the first range that
begins beyond the character, so the common characters at the front are found at once.
-/

namespace RunRadar.Text

/-- Ranges of code points, both ends included, in increasing order. -/
abbrev Ranges := List (Nat × Nat)

/-- Whether a code point lies in one of the ranges. -/
def Ranges.contains : Ranges → Nat → Bool
  | [], _ => false
  | (first, last) :: rest, c => first ≤ c && (c ≤ last || Ranges.contains rest c)

@[simp] theorem Ranges.contains_nil (c : Nat) : Ranges.contains [] c = false := rfl

/-- A code point in the first range is a member. -/
theorem Ranges.contains_head {first last c : Nat} (rest : Ranges) (h : first ≤ c) (h' : c ≤ last) :
    Ranges.contains ((first, last) :: rest) c = true := by
  simp [Ranges.contains, h, h']

namespace Ranges

/-! ### Sets -/

/-- Joins ranges that touch or overlap, in a list that is in order of its first ends. -/
def joined : Ranges → Ranges
  | [] => []
  | [r] => [r]
  | (first, last) :: (first', last') :: rest =>
    if first' ≤ last + 1 then joined ((first, max last last') :: rest)
    else (first, last) :: joined ((first', last') :: rest)
  termination_by ranges => ranges.length

/-- The code points of either set. -/
def union (a b : Ranges) : Ranges := joined (a.merge b fun r s => r.1 ≤ s.1)

/-- The set of the given ranges, in whatever order. -/
def ofList (ranges : List (Nat × Nat)) : Ranges := joined (ranges.mergeSort fun r s => r.1 ≤ s.1)

/-- The greatest code point. -/
def greatest : Nat := 0x10FFFF

/-- The code points from `start` on that are in none of the ranges. -/
def complementFrom (start : Nat) : Ranges → Ranges
  | [] => if start ≤ greatest then [(start, greatest)] else []
  | (first, last) :: rest =>
    let further := complementFrom (max start (last + 1)) rest
    if start < first then (start, first - 1) :: further else further

/-- The code points that are not in the set. -/
def complement (a : Ranges) : Ranges := complementFrom 0 a

/-- The code points of both sets. -/
def intersection (a b : Ranges) : Ranges := complement (union (complement a) (complement b))

/-- The code points of the first set that are not in the second. -/
def difference (a b : Ranges) : Ranges := intersection a (complement b)

/-- The code points of exactly one of the sets. -/
def symmetricDifference (a b : Ranges) : Ranges := union (difference a b) (difference b a)

end Ranges

end RunRadar.Text
