import RunRadar.Text.Ranges

/-!
# RunRadar.Unicode.Runs

**Tables of code points as text.** A table of labels lists the runs of equal labels in order,
each as its label followed by its length, and covers the code points from zero on. A table of
gaps lists the lengths of the stretches outside and inside a set in turn.
-/

namespace RunRadar.Unicode

/-- Runs of code points with equal labels, each with its length, from zero on. -/
abbrev Runs := List (String × Nat)

/-- The number that decimal digits stand for. -/
def lengthOf (digits : List Char) : Nat :=
  digits.foldl (fun n c => 10 * n + (c.toNat - '0'.toNat)) 0

/-- Puts a character in front of the first of some words. A blank begins a new one. -/
def extendWords (c : Char) (words : List (List Char)) : List (List Char) :=
  if c.isWhitespace then [] :: words
  else
    match words with
    | [] => [[c]]
    | word :: rest => (c :: word) :: rest

/-- The words of a text. -/
def wordsOf (text : String) : List (List Char) :=
  (text.toList.foldr extendWords []).filter fun word => !word.isEmpty

namespace Runs

/-- A label and the length behind it. -/
def readRun (word : List Char) : String × Nat :=
  (String.ofList (word.takeWhile Char.isAlpha), lengthOf (word.dropWhile Char.isAlpha))

/-- The runs that a text lists. -/
def read (text : String) : Runs := (wordsOf text).map readRun

/-- The label of a code point. -/
def label? : Runs → Nat → Option String
  | [], _ => none
  | (label, length) :: rest, c => if c < length then some label else label? rest (c - length)

/-- The code points whose labels are chosen, when the runs begin at `start`. -/
def selectFrom (chosen : String → Bool) (start : Nat) : Runs → Text.Ranges
  | [] => []
  | (label, length) :: rest =>
    let further := selectFrom chosen (start + length) rest
    if chosen label && length ≠ 0 then
      match further with
      | (first, last) :: others =>
        if first = start + length then (start, last) :: others
        else (start, start + length - 1) :: further
      | [] => [(start, start + length - 1)]
    else further

/-- The code points whose labels are chosen. -/
def select (runs : Runs) (chosen : String → Bool) : Text.Ranges := selectFrom chosen 0 runs

end Runs

/-- The set whose gaps are listed, when the first one begins at `start`. -/
def rangesFrom (start : Nat) : List Nat → Text.Ranges
  | outside :: inside :: rest =>
    (start + outside, start + outside + inside - 1) ::
      rangesFrom (start + outside + inside) rest
  | _ => []

/-- The set whose gaps a text lists. -/
def ofGaps (text : String) : Text.Ranges :=
  rangesFrom 0 ((wordsOf text).map lengthOf)

end RunRadar.Unicode
