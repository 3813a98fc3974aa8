import RunRadar.Text.Ranges

/-!
# RunRadar.Pattern.Basic

**Regular expressions**, as they are matched: flags, groups, classes and escapes of the
written form are resolved already, so a pattern is made of sets of characters, tests of a
place, and the three ways to combine them.
-/

namespace RunRadar

namespace Pattern

/-- What a word boundary test asks of the characters on its two sides. -/
inductive WordTest
  | boundary
  | noBoundary
  | start
  | stop
  /-- No word character before. -/
  | startHalf
  /-- No word character behind. -/
  | stopHalf
deriving DecidableEq

/-- A test of a place in a text. -/
inductive Look
  | textStart
  | textEnd
  | lineStart
  | lineEnd
  /-- As `lineStart`, where a carriage return and a line feed end one line. -/
  | crlfLineStart
  | crlfLineEnd
  /-- Words are those of Unicode or those of ASCII. -/
  | word (unicode : Bool) (test : WordTest)
deriving DecidableEq

end Pattern

/-- A regular expression. -/
inductive Pattern
  | empty
  /-- One character of the set. -/
  | chars (set : Text.Ranges)
  | look (test : Pattern.Look)
  | seq (first second : Pattern)
  /-- Either alternative, the first one preferred. -/
  | alt (first second : Pattern)
  /-- From `min` to `max` times, as often as possible if `greedy`, and else as seldom. -/
  | times (min : Nat) (max : Option Nat) (greedy : Bool) (body : Pattern)
deriving DecidableEq

namespace Pattern

/-- The pattern of exactly one character. -/
def char (c : Char) : Pattern := .chars [(c.toNat, c.toNat)]

/-- The given patterns one after the other. -/
def all : List Pattern → Pattern
  | [] => .empty
  | [p] => p
  | p :: ps => .seq p (all ps)

/-- The first of the given patterns that fits. -/
def either (first : Pattern) : List Pattern → Pattern
  | [] => first
  | p :: ps => .alt first (either p ps)

/-- Whether nothing but the empty text can match. -/
def onlyEmpty : Pattern → Bool
  | .empty => true
  | .chars _ => false
  | .look _ => true
  | .seq p q => p.onlyEmpty && q.onlyEmpty
  | .alt p q => p.onlyEmpty && q.onlyEmpty
  | .times _ _ _ body => body.onlyEmpty

/-- Whether the pattern may match without any characters. -/
def canBeEmpty : Pattern → Bool
  | .empty => true
  | .chars set => set.isEmpty
  | .look _ => true
  | .seq p q => p.canBeEmpty && q.canBeEmpty
  | .alt p q => p.canBeEmpty || q.canBeEmpty
  | .times min _ _ body => min = 0 || body.canBeEmpty

/-- Sets of which every match has a character each. -/
def needed : Pattern → List Text.Ranges
  | .chars set => [set]
  | .seq p q => p.needed ++ q.needed
  | .times min _ _ body => if min = 0 then [] else body.needed
  | _ => []

/-- A repetition. More than one empty text is no more than one, and no repetition at all is
the empty pattern. -/
def repeated (min : Nat) (max : Option Nat) (greedy : Bool) (body : Pattern) : Pattern :=
  let (min, max) :=
    if body.onlyEmpty then (Nat.min min 1, some (Nat.min (max.getD 1) 1)) else (min, max)
  if max = some 0 then .empty
  else if min = 1 ∧ max = some 1 then body
  else .times min max greedy body

end Pattern

end RunRadar
