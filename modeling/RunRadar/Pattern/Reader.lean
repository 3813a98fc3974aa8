import RunRadar.Pattern.Basic
import RunRadar.Pattern.CharClass
import RunRadar.Text.Hex

/-!
# RunRadar.Pattern.Reader

The **written form** of regular expressions: alternatives, groups with flags or names,
repetitions, classes with set operations, escapes and tests. There are no back references,
and no tests that look ahead or behind. Flags hold from where they are set to the end of the
group around them.

Not everything that is well written is accepted: a pattern must not be nested too deeply, nor
need too much room once its repetitions are written out.
-/

namespace RunRadar.Pattern

open Text (Ranges isBlank)

/-! ### Flags -/

/-- What a pattern can be told about the text behind. -/
structure Flags where
  /-- `i`: case does not matter. -/
  caseless : Bool := false
  /-- `m`: the tests of a text's start and end hold for every line. -/
  multiLine : Bool := false
  /-- `s`: the dot stands for line feeds too. -/
  dotAll : Bool := false
  /-- `U`: repetitions are lazy, and greedy with a question mark. -/
  lazyFirst : Bool := false
  /-- `u`: classes and tests know all of Unicode. -/
  unicode : Bool := true
  /-- `R`: lines may end with a carriage return. -/
  crlf : Bool := false
  /-- `x`: blanks and comments between the parts do not count. -/
  spaced : Bool := false

namespace Flags

/-- Sets the flag with a letter. -/
def set? (f : Flags) (letter : Char) (value : Bool) : Option Flags :=
  match letter with
  | 'i' => some { f with caseless := value }
  | 'm' => some { f with multiLine := value }
  | 's' => some { f with dotAll := value }
  | 'U' => some { f with lazyFirst := value }
  | 'u' => some { f with unicode := value }
  | 'R' => some { f with crlf := value }
  | 'x' => some { f with spaced := value }
  | _ => none

/-- A set under the flags: if case does not matter, with the other cases of its characters. -/
def fold (f : Flags) (set : Ranges) : Ranges :=
  if !f.caseless then set else if f.unicode then foldUnicode set else foldAscii set

/-- All other characters. Outside Unicode mode they would be no characters of a text. -/
def negate? (f : Flags) (negated : Bool) (set : Ranges) : Option Ranges :=
  if !negated then some set else if f.unicode then some set.complement else none

end Flags

/-! ### Blanks between parts -/

/-- Text without the blanks and comments it begins with. -/
def dropSpace (inComment : Bool) : List Char → List Char
  | [] => []
  | c :: cs =>
    if inComment then dropSpace (c ≠ '\n') cs
    else if isBlank c then dropSpace false cs
    else if c = '#' then dropSpace true cs
    else c :: cs

/-- Text without the blanks that do not count. -/
def skip (f : Flags) (cs : List Char) : List Char := if f.spaced then dropSpace false cs else cs

/-- The next character but one that counts, where one `#` is passed over as a blank is. -/
def peekSpace (f : Flags) (cs : List Char) : Option Char :=
  if f.spaced then
    match cs.dropWhile isBlank with
    | '#' :: rest => (rest.dropWhile isBlank).head?
    | rest => rest.head?
  else cs.head?

/-! ### Escapes -/

/-- A part of one character or place. -/
inductive Primitive
  /-- A character. As a `byte` it is written with two hexadecimal digits. -/
  | char (c : Char) (byte : Bool)
  | set (set : Ranges)
  | look (test : Look)

/-- The characters that mean something in patterns. -/
def isMeta (c : Char) : Bool := "\\.+*?()|[]\x7b\x7d^$#&-~".toList.contains c

/-- The other characters that stand for themselves behind a backslash. -/
def isEscapable (c : Char) : Bool := c.toNat ≤ 0x7F && !c.isAlphanum && c ≠ '<' && c ≠ '>'

/-- The character with a code point. -/
def ofCodePoint? (n : Nat) : Option Char :=
  if h : n.isValidChar then some (Char.ofNatAux n h) else none

/-- A number of so many hexadecimal digits. -/
def readHex (f : Flags) : (count value : Nat) → List Char → Option (Nat × List Char)
  | 0, value, cs => some (value, cs)
  | _ + 1, _, [] => none
  | count + 1, value, c :: cs =>
    match Text.hexValue? c with
    | some d => readHex f count (16 * value + d) (skip f cs)
    | none => none

/-- The hexadecimal digits up to a closing brace, and what is behind it. -/
def readHexBrace (f : Flags) (digits : List Nat) : (room : Nat) → List Char →
    Option (List Nat × List Char)
  | 0, _ => none
  | room + 1, cs =>
    match skip f cs with
    | [] => none
    | '\x7d' :: rest => some (digits.reverse, skip f rest)
    | c :: rest =>
      match Text.hexValue? c with
      | some d => readHexBrace f (d :: digits) room rest
      | none => none

/-- A character by its code point, of `count` digits or in braces. -/
def readCodePoint (f : Flags) (count : Nat) (cs : List Char) : Option (Primitive × List Char) :=
  match skip f cs with
  | '\x7b' :: rest => do
    let (digits, rest) ← readHexBrace f [] (rest.length + 1) rest
    if digits = [] then none
    else
      let c ← ofCodePoint? (digits.foldl (16 * · + ·) 0)
      some (.char c false, rest)
  | rest => do
    let (n, rest) ← readHex f count 0 rest
    let c ← ofCodePoint? n
    some (.char c (count = 2), rest)

/-- The text up to a closing brace, and what is behind it. -/
def readBraced (f : Flags) (name : List Char) : (room : Nat) → List Char →
    Option (List Char × List Char)
  | 0, _ => none
  | room + 1, cs =>
    match skip f cs with
    | [] => none
    | '\x7d' :: rest => some (name.reverse, rest)
    | c :: rest => readBraced f (c :: name) room rest

/-- The first place at which a list of characters holds a separator: what is before it and
what is behind. -/
def splitAt? (separator : List Char) : List Char → Option (List Char × List Char)
  | [] => none
  | c :: cs =>
    if separator.isPrefixOf (c :: cs) then some ([], (c :: cs).drop separator.length)
    else (splitAt? separator cs).map fun (before, after) => (c :: before, after)

/-- The set that the text in braces asks for, and whether it asks for all others. -/
def propertyQuery? (query : List Char) : Option (Ranges × Bool) :=
  match splitAt? ['!', '='] query with
  | some (name, value) => (propertyValueSet? name value).map (·, true)
  | none =>
    match splitAt? [':'] query with
    | some (name, value) => (propertyValueSet? name value).map (·, false)
    | none =>
      match splitAt? ['='] query with
      | some (name, value) => (propertyValueSet? name value).map (·, false)
      | none => (propertySet? query).map (·, false)

/-- A class by its property: one letter, or a query in braces. -/
def readProperty (f : Flags) (negated : Bool) (cs : List Char) :
    Option (Primitive × List Char) := do
  let (query, rest) ← match skip f cs with
    | [] => none
    | '\x7b' :: rest => readBraced f [] (rest.length + 1) rest
    | c :: rest => if c = '\\' then none else some ([c], skip f rest)
  let (set, others) ← propertyQuery? query
  if f.unicode then
    let set ← f.negate? (negated != others) (f.fold set)
    some (.set set, rest)
  else none

/-- The letters and hyphens of a word in braces. -/
def readBoundaryName (f : Flags) (name : List Char) : (room : Nat) → List Char →
    Option (List Char × List Char)
  | 0, _ => none
  | room + 1, cs =>
    match cs with
    | '\x7d' :: rest => some (name.reverse, rest)
    | c :: rest =>
      if c.isAlpha ∨ c = '-' then readBoundaryName f (c :: name) room (skip f rest) else none
    | [] => none

/-- A word boundary, perhaps with the kind of boundary in braces. Braces that hold no word are
left to be a repetition. -/
def readBoundary (f : Flags) (cs : List Char) : Option (Primitive × List Char) :=
  let plain : Primitive × List Char := (.look (.word f.unicode .boundary), cs)
  match cs with
  | '\x7b' :: rest =>
    match skip f rest with
    | [] => none
    | c :: rest =>
      if c.isAlpha ∨ c = '-' then do
        let (name, rest) ← readBoundaryName f [] (rest.length + 2) (c :: rest)
        let test ← match String.ofList name with
          | "start" => some WordTest.start
          | "end" => some .stop
          | "start-half" => some .startHalf
          | "end-half" => some .stopHalf
          | _ => none
        some (.look (.word f.unicode test), rest)
      else some plain
  | _ => some plain

/-- What stands behind a backslash. -/
def readEscape (f : Flags) : List Char → Option (Primitive × List Char)
  | [] => none
  | c :: rest =>
    if isMeta c || isEscapable c then some (.char c false, rest)
    else
      match c with
      | 'x' => readCodePoint f 2 rest
      | 'u' => readCodePoint f 4 rest
      | 'U' => readCodePoint f 8 rest
      | 'p' => readProperty f false rest
      | 'P' => readProperty f true rest
      | 'a' => some (.char '\x07' false, rest)
      | 'f' => some (.char '\x0c' false, rest)
      | 't' => some (.char '\t' false, rest)
      | 'n' => some (.char '\n' false, rest)
      | 'r' => some (.char '\r' false, rest)
      | 'v' => some (.char '\x0b' false, rest)
      | 'A' => some (.look .textStart, rest)
      | 'z' => some (.look .textEnd, rest)
      | 'b' => readBoundary f rest
      | 'B' => some (.look (.word f.unicode .noBoundary), rest)
      | '<' => some (.look (.word f.unicode .start), rest)
      | '>' => some (.look (.word f.unicode .stop), rest)
      | c => do
        let cls ← LetterClass.ofChar? c.toLower
        let set ← f.negate? c.isUpper (if f.unicode then cls.unicode else cls.ascii)
        some (.set set, rest)

/-! ### Classes -/

/-- A set that is read, with how deeply it is nested. -/
structure Nested where
  set : Ranges
  depth : Nat

/-- The items of a class that are read so far. -/
structure Items where
  set : Ranges := []
  count : Nat := 0
  depth : Nat := 0

def Items.add (items : Items) (item : Nested) : Items :=
  ⟨items.set.union item.set, items.count + 1, max items.depth item.depth⟩

/-- The items as one set. Several of them are one level of nesting. -/
def Items.nested (items : Items) : Nested :=
  ⟨items.set, if 1 < items.count then items.depth + 1 else items.depth⟩

/-- The operations on sets in a class. -/
inductive SetOperator
  | intersection
  | difference
  | symmetricDifference

def SetOperator.apply : SetOperator → Ranges → Ranges → Ranges
  | .intersection => Ranges.intersection
  | .difference => Ranges.difference
  | .symmetricDifference => Ranges.symmetricDifference

/-- The set before an operator, with the operator, and the set behind it, combined. -/
def combine (f : Flags) (pending : Option (Nested × SetOperator)) (item : Nested) : Nested :=
  match pending with
  | none => item
  | some (left, op) =>
    ⟨op.apply (f.fold left.set) (f.fold item.set), max left.depth item.depth + 1⟩

/-- One character in a class, as a set. Outside Unicode mode it has to be an ASCII one. -/
def literalSet? (f : Flags) (first last : Char) : Option Ranges :=
  if f.unicode || (first.toNat ≤ 0x7F && last.toNat ≤ 0x7F) then
    if first ≤ last then some [(first.toNat, last.toNat)] else none
  else none

/-- A single item of a class. -/
def readItem (f : Flags) : List Char → Option (Primitive × List Char)
  | [] => none
  | '\\' :: rest => readEscape f rest
  | c :: rest => some (.char c false, rest)

/-- A single item of a class, or a range of two characters. -/
def readRange (f : Flags) (cs : List Char) : Option (Ranges × List Char) := do
  let (item, rest) ← readItem f cs
  let rest := skip f rest
  let single : Option (Ranges × List Char) :=
    match item with
    | .char c _ => (literalSet? f c c).map (·, rest)
    | .set set => some (set, rest)
    | .look _ => none
  match rest with
  | [] => none
  | '-' :: behind =>
    if peekSpace f behind = some ']' ∨ peekSpace f behind = some '-' then single
    else
      let (last, rest) ← readItem f (skip f behind)
      match item, last with
      | .char c _, .char d _ => (literalSet? f c d).map (·, rest)
      | _, _ => none
  | _ => single

/-- A class with an ASCII name, behind its opening bracket. -/
def readNamed (f : Flags) (cs : List Char) : Option (Option Ranges × List Char) := do
  let (negated, cs) ← match cs with
    | ':' :: '^' :: rest => some (true, rest)
    | ':' :: rest => some (false, rest)
    | _ => none
  let name := cs.takeWhile (· ≠ ':')
  match cs.dropWhile (· ≠ ':') with
  | ':' :: ']' :: rest =>
    let set ← asciiClasses.lookup (String.ofList name)
    some (f.negate? negated (f.fold set), rest)
  | _ => none

/-- The hyphens a class may begin with, and a closing bracket if there are none. -/
def readLeading (f : Flags) (items : Items) : (room : Nat) → List Char → Items × List Char
  | 0, cs => (items, cs)
  | room + 1, cs =>
    match cs with
    | '-' :: rest => readLeading f (items.add ⟨[(0x2D, 0x2D)], 0⟩) room (skip f rest)
    | ']' :: rest =>
      if items.count = 0 then (items.add ⟨[(0x5D, 0x5D)], 0⟩, skip f rest) else (items, cs)
    | cs => (items, cs)

mutual
/-- A class, behind its opening bracket. -/
def readClass (f : Flags) : (room : Nat) → List Char → Option (Nested × List Char)
  | 0, _ => none
  | room + 1, cs => do
    let (negated, cs) := match skip f cs with
      | '^' :: rest => (true, skip f rest)
      | cs => (false, cs)
    let (items, cs) := readLeading f {} cs.length cs
    let (body, rest) ← readItems f none items room cs
    let set ← f.negate? negated (f.fold body.set)
    some (⟨set, body.depth + 1⟩, rest)
/-- The items of a class and its operators, up to the closing bracket. -/
def readItems (f : Flags) (pending : Option (Nested × SetOperator)) (items : Items) :
    (room : Nat) → List Char → Option (Nested × List Char)
  | 0, _ => none
  | room + 1, cs =>
    let operator (op : SetOperator) (rest : List Char) : Option (Nested × List Char) :=
      readItems f (some (combine f pending items.nested, op)) {} room rest
    match skip f cs with
    | [] => none
    | ']' :: rest => some (combine f pending items.nested, rest)
    | '&' :: '&' :: rest => operator .intersection rest
    | '-' :: '-' :: rest => operator .difference rest
    | '~' :: '~' :: rest => operator .symmetricDifference rest
    | '[' :: rest =>
      match readNamed f rest with
      | some (set, rest) => do readItems f pending (items.add ⟨← set, 0⟩) room rest
      | none => do
        let (inner, rest) ← readClass f room rest
        readItems f pending (items.add inner) room rest
    | cs => do
      let (set, rest) ← readRange f cs
      readItems f pending (items.add ⟨set, 0⟩) room rest
end

/-! ### Parts -/

/-- A part of a pattern, with how deeply it is nested, how much room its compiled form needs by
estimate, and whether it can be repeated. -/
structure Part where
  pattern : Pattern
  depth : Nat
  size : Nat
  repeatable : Bool := true

/-- How deeply a pattern may be nested. -/
def maxDepth : Nat := 250

/-- How much room a compiled pattern may need. The room of its parts is estimated and not measured
on compiled ones, so a pattern near the limit may be accepted or refused by mistake. -/
def maxSize : Nat := 10 * 1024 * 1024

/-- The room for one step of matching, by estimate. -/
def stepSize : Nat := 32

/-- The room for a set, by estimate. Sets beyond ASCII are matched in several steps. How many there
are depends on what the encoded ranges have in common, while only their number counts here. -/
def setSize (set : Ranges) : Nat :=
  if set.all (·.2 ≤ 0x7F) then 2 * stepSize + 8 * set.length else 600 + 57 * set.length

/-- One character, or one of its other cases. -/
def charPart (f : Flags) (c : Char) : Part :=
  let set := f.fold [(c.toNat, c.toNat)]
  ⟨.chars set, 0, if set = [(c.toNat, c.toNat)] then stepSize * c.utf8Size else setSize set, true⟩

def setPart (set : Ranges) (depth : Nat) : Part := ⟨.chars set, depth, setSize set, true⟩

def lookPart (test : Look) : Part := ⟨.look test, 0, stepSize, true⟩

/-- Outside Unicode mode the upper half of the bytes are no characters. -/
def primitivePart? (f : Flags) : Primitive → Option Part
  | .char c byte => if byte && !f.unicode && 0x7F < c.toNat then none else some (charPart f c)
  | .set set => some (setPart set 0)
  | .look test => some (lookPart test)

/-- The dot: every character, but those that end a line. -/
def dotPart? (f : Flags) : Option Part :=
  if !f.unicode then none
  else if f.dotAll then some (setPart [(0, 0x10FFFF)] 0)
  else if f.crlf then some (setPart [(0, 0x9), (0xB, 0xC), (0xE, 0x10FFFF)] 0)
  else some (setPart [(0, 0x9), (0xB, 0x10FFFF)] 0)

def startLook (f : Flags) : Look :=
  if !f.multiLine then .textStart else if f.crlf then .crlfLineStart else .lineStart

def endLook (f : Flags) : Look :=
  if !f.multiLine then .textEnd else if f.crlf then .crlfLineEnd else .lineEnd

/-- Parts one after the other, the last one first. -/
def sequence (parts : List Part) : Part :=
  match parts with
  | [] => ⟨.empty, 0, stepSize, false⟩
  | [part] => part
  | parts =>
    ⟨.all (parts.reverse.map (·.pattern)), (parts.map (·.depth)).foldl max 0 + 1,
      (parts.map (·.size)).foldl (· + ·) 0, true⟩

/-- Alternatives, the last one first. -/
def alternatives (last : Part) (others : List Part) : Part :=
  match (last :: others).reverse with
  | first :: second :: rest =>
    let parts := first :: second :: rest
    ⟨.either first.pattern ((second :: rest).map (·.pattern)),
      (parts.map (·.depth)).foldl max 0 + 1,
      (parts.map (·.size)).foldl (· + ·) 0 + 2 * stepSize + 4 * parts.length, true⟩
  | _ => last

/-- A repeated part. -/
def repeatPart (min : Nat) (max : Option Nat) (greedy : Bool) (part : Part) : Part :=
  let pattern := part.pattern.repeated min max greedy
  let copies := match max with
    | some max => max
    | none => Nat.max min 1
  let size :=
    if pattern = .empty then stepSize
    else if part.pattern.onlyEmpty then part.size + 2 * stepSize
    else copies * part.size + (copies - min + 1) * (stepSize + 8)
  ⟨pattern, part.depth + 1, size, true⟩

/-! ### Repetitions -/

/-- A decimal number, blanks around it, that fits into thirty-two bits. -/
def readCount (f : Flags) (cs : List Char) : Option (Nat × List Char) :=
  let rec digits (value : Option Nat) : (room : Nat) → List Char → Option Nat × List Char
    | 0, cs => (value, cs)
    | room + 1, c :: cs =>
      if c.isDigit then
        digits (some (10 * value.getD 0 + (c.toNat - '0'.toNat))) room (skip f cs)
      else (value, c :: cs)
    | _ + 1, [] => (value, [])
  let rec blanks : (room : Nat) → List Char → List Char
    | 0, cs => cs
    | room + 1, c :: cs => if isBlank c then blanks room (skip f cs) else c :: cs
    | _ + 1, [] => []
  match digits none cs.length (cs.dropWhile isBlank) with
  | (some n, rest) => if n < UInt32.size then some (n, blanks rest.length rest) else none
  | (none, _) => none

/-- How often a part is repeated, behind the opening brace. -/
def readCounts (f : Flags) (cs : List Char) : Option ((Nat × Option Nat) × List Char) := do
  let (min, rest) ← readCount f (skip f cs)
  let (max, rest) ← match rest with
    | ',' :: rest =>
      match skip f rest with
      | '\x7d' :: rest => some (none, '\x7d' :: rest)
      | rest => (readCount f rest).map fun (max, rest) => (some max, rest)
    | rest => some (some min, rest)
  match rest with
  | '\x7d' :: rest => if max.all (min ≤ ·) then some ((min, max), skip f rest) else none
  | _ => none

/-- Repeats the part read last, greedily unless a question mark follows. -/
def repeatLast? (f : Flags) (min : Nat) (max : Option Nat) (rest : List Char)
    (parts : List Part) : Option (List Part × List Char) :=
  match parts with
  | [] => none
  | part :: parts =>
    if part.repeatable then
      let (lazy, rest) := match rest with
        | '?' :: rest => (true, rest)
        | rest => (false, rest)
      some (repeatPart min max (lazy == f.lazyFirst) part :: parts, rest)
    else none

/-! ### Groups -/

/-- Whether a character can stand in the name of a group. -/
def isNameChar (first : Bool) (c : Char) : Bool :=
  c = '_' || Unicode.isAlphabetic c.toNat ||
    (!first && (c = '.' || c = '[' || c = ']' || Unicode.isNumeric c.toNat))

/-- The name of a group, up to the angle bracket. -/
def readName (cs : List Char) : Option (List Char × List Char) :=
  let name := cs.takeWhile (· ≠ '>')
  match name, cs.dropWhile (· ≠ '>') with
  | first :: others, _ :: rest =>
    if isNameChar true first && others.all (isNameChar false) then some (name, rest) else none
  | _, _ => none

/-- The state of reading flags: the letters that there were, whether a hyphen has been read,
and whether it was the last thing read. -/
structure FlagState where
  flags : Flags
  letters : List Char := []
  negated : Bool := false
  dangling : Bool := false

/-- Flags up to a colon or a closing parenthesis, which is the character given back. -/
def readFlags (s : FlagState) : List Char → Option (FlagState × Char × List Char)
  | [] => none
  | c :: rest =>
    if c = ':' ∨ c = ')' then if s.dangling then none else some (s, c, rest)
    else if c = '-' then
      if s.negated then none else readFlags { s with negated := true, dangling := true } rest
    else if s.letters.contains c then none
    else
      match s.flags.set? c (!s.negated) with
      | some flags =>
        readFlags { s with flags, letters := c :: s.letters, dangling := false } rest
      | none => none

/-- What an opening parenthesis begins. -/
inductive Opening
  /-- A group whose content is read under the flags, and whether it captures. -/
  | group (flags : Flags) (captures : Bool)
  /-- Flags for the rest of the group around. -/
  | flags (flags : Flags)

/-- What stands behind an opening parenthesis. No two groups have the same name. -/
def readOpening (f : Flags) (names : List (List Char)) (cs : List Char) :
    Option (Opening × List (List Char) × List Char) :=
  let named (rest : List Char) : Option (Opening × List (List Char) × List Char) := do
    let (name, rest) ← readName rest
    if names.contains name then none else some (.group f true, name :: names, rest)
  match skip f cs with
  | '?' :: 'P' :: '<' :: rest => named rest
  | '?' :: '<' :: rest =>
    match rest with
    | '=' :: _ | '!' :: _ => none
    | rest => named rest
  | '?' :: rest => do
    let (s, closing, rest) ← readFlags { flags := f } rest
    if closing = ':' then some (.group s.flags false, names, rest)
    else if s.letters = [] then none
    else some (.flags s.flags, names, rest)
  | rest => some (.group f true, names, rest)

/-! ### Patterns -/

/-- A group, as a part. A capturing group marks its start and its end. -/
def groupPart (captures : Bool) (part : Part) : Part :=
  ⟨part.pattern, part.depth + 1, if captures then part.size + 2 * stepSize else part.size, true⟩

/-- Flags among other parts. -/
def flagsPart : Part := ⟨.empty, 0, stepSize, false⟩

/-- The alternatives up to the end of a group or of the pattern. `done` holds the alternatives
that are complete, and `parts` the parts of the one being read, both with the last one
first. -/
def readGroup : (room : Nat) → Flags → (names : List (List Char)) → (done parts : List Part) →
    List Char → Option (Part × List (List Char) × List Char)
  | 0, _, _, _, _, _ => none
  | room + 1, f, names, done, parts, cs =>
    let add (part : Part) (rest : List Char) : Option (Part × List (List Char) × List Char) :=
      readGroup room f names done (part :: parts) rest
    let again (min : Nat) (max : Option Nat) (rest : List Char) :
        Option (Part × List (List Char) × List Char) := do
      let (parts, rest) ← repeatLast? f min max rest parts
      readGroup room f names done parts rest
    match skip f cs with
    | [] => some (alternatives (sequence parts) done, names, [])
    | ')' :: rest => some (alternatives (sequence parts) done, names, ')' :: rest)
    | '(' :: rest => do
      let (opening, names, rest) ← readOpening f names rest
      match opening with
      | .flags f => readGroup room f names done (flagsPart :: parts) rest
      | .group inner captures =>
        let (part, names, rest) ← readGroup room inner names [] [] rest
        match rest with
        | ')' :: rest =>
          readGroup room f names done (groupPart captures part :: parts) rest
        | _ => none
    | '|' :: rest => readGroup room f names (sequence parts :: done) [] rest
    | '[' :: rest => do
      let (nested, rest) ← readClass f (2 * rest.length + 2) rest
      add (setPart nested.set nested.depth) rest
    | '?' :: rest => again 0 (some 1) rest
    | '*' :: rest => again 0 none rest
    | '+' :: rest => again 1 none rest
    | '\x7b' :: rest => do
      let ((min, max), rest) ← readCounts f rest
      again min max rest
    | '\\' :: rest => do
      let (primitive, rest) ← readEscape f rest
      add (← primitivePart? f primitive) rest
    | '.' :: rest => do add (← dotPart? f) rest
    | '^' :: rest => add (lookPart (startLook f)) rest
    | '$' :: rest => add (lookPart (endLook f)) rest
    | c :: rest => add (charPart f c) rest

/-- Reads a pattern. -/
def read? (text : String) : Option Pattern :=
  let cs := text.toList
  match readGroup (cs.length + 1) {} [] [] [] cs with
  | some (part, _, []) =>
    if part.depth ≤ maxDepth ∧ part.size ≤ maxSize then some part.pattern else none
  | _ => none

end RunRadar.Pattern
