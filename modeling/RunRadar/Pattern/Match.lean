import RunRadar.Pattern.Basic
import RunRadar.Unicode.Word
import Std.Data.HashSet

/-!
# RunRadar.Pattern.Match

**Matching**: `ends` lists the places where a pattern can stop when it starts at one of the
given ones, the preferred ones first. A search takes the first place where there is an end at
all, and there the first end.

A pattern never comes back to a choice that it has entered already without taking a character
since: going round a loop for nothing ends the loop. Places remember the choices entered
since the last character for that purpose. A choice is named by its path in the pattern, the
copies that a counted repetition makes of its body being told apart. Beside this, a
repetition looks at each place once for each of its iterations, and a pattern goes on from
each of equal places once, since the second time could only lead to the same ends again.
-/

namespace RunRadar.Pattern

/-! ### Places -/

/-- A place in a text, between two characters. -/
structure Place where
  /-- The character before the place. -/
  before : Option Char
  /-- The characters behind it. -/
  rest : List Char
  /-- How many characters are before it. -/
  offset : Nat
  /-- The choices entered since the last character. -/
  entered : List (List Nat)

namespace Place

/-- The start of a text. -/
def start (text : List Char) : Place := ⟨none, text, 0, []⟩

/-- What tells the places of one text apart. -/
abbrev Key := Nat × List (List Nat)

def key (p : Place) : Key := (p.offset, p.entered)

/-- The first ones of equal places, without those that are `seen`. -/
def distinctFrom (seen : Std.HashSet Key) : List Place → List Place
  | [] => []
  | p :: rest =>
    if seen.contains p.key then distinctFrom seen rest
    else p :: distinctFrom (seen.insert p.key) rest

/-- The first ones of equal places. -/
def distinct : List Place → List Place
  | [] => []
  | [p] => [p]
  | places => distinctFrom ∅ places

/-- The place behind the next character. -/
def next? (p : Place) : Option Place :=
  match p.rest with
  | [] => none
  | c :: rest => some ⟨some c, rest, p.offset + 1, []⟩

/-- The place behind the next character, if it is one of the set. -/
def step? (set : Text.Ranges) (p : Place) : Option Place :=
  match p.rest with
  | [] => none
  | c :: rest => if set.contains c.toNat then some ⟨some c, rest, p.offset + 1, []⟩ else none

/-- The place with a choice entered, unless it is entered already. -/
def enter? (choice : List Nat) (p : Place) : Option Place :=
  if p.entered.contains choice then none else some { p with entered := choice :: p.entered }

/-- The characters from one place up to a later one. -/
def textTo (p q : Place) : List Char := p.rest.take (q.offset - p.offset)

end Place

/-! ### Tests -/

/-- Whether a character belongs to words. -/
def isWord (unicode : Bool) (c : Char) : Bool :=
  if unicode then Unicode.wordCharacters.contains c.toNat else c.isAlphanum || c = '_'

/-- Decides a word test from what stands on the two sides. -/
def WordTest.holds (test : WordTest) (before after : Bool) : Bool :=
  match test with
  | .boundary => before != after
  | .noBoundary => before == after
  | .start => !before && after
  | .stop => before && !after
  | .startHalf => !before
  | .stopHalf => !after

/-- Whether a test holds at a place. -/
def Look.holds (look : Look) (p : Place) : Bool :=
  let after := p.rest.head?
  match look with
  | .textStart => p.before.isNone
  | .textEnd => after.isNone
  | .lineStart => p.before.isNone || p.before = some '\n'
  | .lineEnd => after.isNone || after = some '\n'
  | .crlfLineStart =>
    p.before.isNone || p.before = some '\n' || (p.before = some '\r' && after ≠ some '\n')
  | .crlfLineEnd =>
    after.isNone || after = some '\r' || (after = some '\n' && p.before ≠ some '\r')
  | .word unicode test => test.holds (p.before.any (isWord unicode)) (after.any (isWord unicode))

/-! ### Repetitions -/

/-- The course of a repetition: the iterations and offsets that it has looked at, and the ends
that it has found, the latest first. -/
structure Course where
  seen : Std.HashSet (Nat × Nat) := ∅
  found : List Place := []

namespace Course

def find (course : Course) (p : Place) : Course := { course with found := p :: course.found }

def look (course : Course) (k : Nat) (p : Place) : Course :=
  { course with seen := course.seen.insert (k, p.offset) }

/-- The ends that are found, the preferred ones first. -/
def ends (course : Course) : List Place := course.found.reverse

end Course

/-- Exactly `count` copies of a body, from the `k`-th one on. -/
def copies (body : Nat → List Place → List Place) : (count k : Nat) → List Place → List Place
  | 0, _, places => places
  | count + 1, k, places => if places.isEmpty then [] else copies body count (k + 1) (body k places)

/-- Up to `room` further iterations, each after the choice to go on. With `shared`, all of them
use one copy of the body, and otherwise each has its own. -/
def iterations (body : Nat → Place → List Place) (choice : Nat → List Nat)
    (greedy shared : Bool) : (room k : Nat) → Course → Place → Course
  | 0, _, course, p => course.find p
  | room + 1, k, course, p =>
    if course.seen.contains (k, p.offset) then course
    else
      match p.enter? (choice k) with
      | none => course
      | some p =>
        let course := course.look k p
        let further := iterations body choice greedy shared room (if shared then k else k + 1)
        if greedy then ((body k p).foldl further course).find p
        else (body k p).foldl further (course.find p)

/-- One iteration, then as many as there is room for. -/
def atLeastOnce (body : Nat → Place → List Place) (choice : Nat → List Nat) (greedy : Bool)
    (k : Nat) (course : Course) (p : Place) : Course :=
  (body k p).foldl (iterations body choice greedy true (p.rest.length + 2) k) course

/-- Any number of iterations. A body that may be empty has a choice of its own to be skipped. -/
def anyNumber (body : Nat → Place → List Place) (choice : Nat → List Nat) (skip : List Nat)
    (greedy emptyBody : Bool) (course : Course) (p : Place) : Course :=
  if emptyBody then
    match p.enter? skip with
    | none => course
    | some p =>
      if greedy then (atLeastOnce body choice greedy 0 course p).find p
      else atLeastOnce body choice greedy 0 (course.find p) p
  else iterations body choice greedy true (p.rest.length + 2) 0 course p

/-! ### Patterns -/

/-- The places where a pattern at `path` can stop when it starts at one of the given places,
preferred ones first. -/
def ends : Pattern → (path : List Nat) → List Place → List Place
  | .empty, _, places => places
  | .chars set, _, places => Place.distinct (places.filterMap (Place.step? set))
  | .look test, _, places => places.filter test.holds
  | .seq first second, path, places =>
    ends second (1 :: path) (ends first (0 :: path) places)
  | .alt first second, path, places =>
    Place.distinct <| places.flatMap fun p =>
      match p.enter? path with
      | none => []
      | some p => ends first (0 :: path) [p] ++ ends second (1 :: path) [p]
  | .times min max greedy body, path, places =>
    let copy := fun k => ends body (0 :: k :: path)
    let copyFrom := fun k p => copy k [p]
    let choice := fun k => 1 :: k :: path
    let (places, goOn) : List Place × (Course → Place → Course) :=
      match max with
      | some max =>
        (copies copy min 0 places, iterations copyFrom choice greedy false (max - min) min)
      | none =>
        match min with
        | 0 => (places, anyNumber copyFrom choice (2 :: path) greedy body.canBeEmpty)
        | least + 1 => (copies copy least 0 places, atLeastOnce copyFrom choice greedy least)
    Place.distinct (places.foldl goOn {}).ends

/-! ### Searching -/

/-- The first match at a place or behind it: where it starts and where it stops. -/
def searchFrom (pattern : Pattern) : (room : Nat) → Place → Option (Place × Place)
  | 0, _ => none
  | room + 1, p =>
    match (pattern.ends [] [p]).head? with
    | some q => some (p, q)
    | none => p.next?.bind (searchFrom pattern room)

/-- The first match at a place or behind it. There is none without the characters that every
match has. -/
def search? (pattern : Pattern) (p : Place) : Option (Place × Place) :=
  if pattern.needed.all fun set => p.rest.any fun c => set.contains c.toNat then
    pattern.searchFrom (p.rest.length + 1) p
  else none

/-- A place that nothing has been entered at. -/
def Place.fresh (p : Place) : Place := { p with entered := [] }

/-- The matches from a place on, one behind the other. An empty match does not follow directly
upon another match; the search goes on behind the next character then. -/
def matchesFrom (pattern : Pattern) : (room : Nat) → (last : Option Nat) → Place → List (List Char)
  | 0, _, _ => []
  | room + 1, last, p =>
    match pattern.search? p with
    | none => []
    | some (start, stop) =>
      if stop.offset = start.offset ∧ last = some stop.offset then
        match p.next? with
        | none => []
        | some p => matchesFrom pattern room last p
      else start.textTo stop :: matchesFrom pattern room (some stop.offset) stop.fresh

/-- All matches in a text, from left to right, none overlapping another. -/
def findAll (pattern : Pattern) (text : String) : List String :=
  let cs := text.toList
  (pattern.matchesFrom (2 * cs.length + 2) none (.start cs)).map String.ofList

end RunRadar.Pattern
