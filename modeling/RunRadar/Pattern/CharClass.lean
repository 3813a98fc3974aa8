import RunRadar.Unicode.Age
import RunRadar.Unicode.Break
import RunRadar.Unicode.Folding
import RunRadar.Unicode.Property
import RunRadar.Unicode.Script
import RunRadar.Unicode.Word

/-!
# RunRadar.Pattern.CharClass

The **named sets of characters** of written patterns, and what ignoring case does to a set. A
pattern that is not in Unicode mode knows the sets of ASCII only.
-/

namespace RunRadar.Pattern

open Text (Ranges)

/-! ### Classes of one letter -/

/-- The classes `\d`, `\s` and `\w`. -/
inductive LetterClass
  | digit
  | space
  | word
deriving DecidableEq

namespace LetterClass

def ofChar? : Char → Option LetterClass
  | 'd' => some .digit
  | 's' => some .space
  | 'w' => some .word
  | _ => none

def ascii : LetterClass → Ranges
  | .digit => [(0x30, 0x39)]
  | .space => [(0x9, 0xD), (0x20, 0x20)]
  | .word => [(0x30, 0x39), (0x41, 0x5A), (0x5F, 0x5F), (0x61, 0x7A)]

def unicode : LetterClass → Ranges
  | .digit => Unicode.digits
  | .space => Text.blanks
  | .word => Unicode.wordCharacters

end LetterClass

/-! ### Classes with ASCII names -/

/-- The sets that stand in `[:` and `:]`, by their names. -/
def asciiClasses : List (String × Ranges) :=
  [("alnum", [(0x30, 0x39), (0x41, 0x5A), (0x61, 0x7A)]),
   ("alpha", [(0x41, 0x5A), (0x61, 0x7A)]),
   ("ascii", [(0x0, 0x7F)]),
   ("blank", [(0x9, 0x9), (0x20, 0x20)]),
   ("cntrl", [(0x0, 0x1F), (0x7F, 0x7F)]),
   ("digit", [(0x30, 0x39)]),
   ("graph", [(0x21, 0x7E)]),
   ("lower", [(0x61, 0x7A)]),
   ("print", [(0x20, 0x7E)]),
   ("punct", [(0x21, 0x2F), (0x3A, 0x40), (0x5B, 0x60), (0x7B, 0x7E)]),
   ("space", [(0x9, 0xD), (0x20, 0x20)]),
   ("upper", [(0x41, 0x5A)]),
   ("word", [(0x30, 0x39), (0x41, 0x5A), (0x5F, 0x5F), (0x61, 0x7A)]),
   ("xdigit", [(0x30, 0x39), (0x41, 0x46), (0x61, 0x66)])]

/-! ### Unicode properties -/

/-- A name as it is looked up: in lower case, without separators, without `is` in front. -/
def plainName (name : List Char) : String :=
  let (stripped, rest) := match name with
    | a :: b :: rest =>
      if a.toLower = 'i' ∧ b.toLower = 's' then (true, rest) else (false, name)
    | _ => (false, name)
  let kept := rest.filter fun c => c ≠ ' ' && c ≠ '_' && c ≠ '-' && c.toNat ≤ 0x7F
  let plain := String.ofList (kept.map Char.toLower)
  if stripped ∧ plain = "c" then "isc" else plain

/-- The set that a name stands for: a property, a general category or a script. -/
def propertySet? (name : List Char) : Option Ranges :=
  let name := plainName name
  match Unicode.property? name with
  | some set => some set
  | none =>
    match Unicode.category? name with
    | some set => some set
    | none => Unicode.script? name

/-- The set of the characters for which a property has a value. -/
def propertyValueSet? (name value : List Char) : Option Ranges :=
  let value := plainName value
  match plainName name with
  | "gc" | "generalcategory" => Unicode.category? value
  | "sc" | "script" => Unicode.script? value
  | "scx" | "scriptextensions" => Unicode.scriptExtension? value
  | "age" => Unicode.age? value
  | "gcb" | "graphemeclusterbreak" => Unicode.graphemeBreak.class? value
  | "wb" | "wordbreak" => Unicode.wordBreak.class? value
  | "sb" | "sentencebreak" => Unicode.sentenceBreak.class? value
  | _ => none

/-! ### Ignoring case -/

/-- Characters and their folded characters, as pairs. -/
def foldPairs : List (Nat × Nat) :=
  Unicode.foldRuns.flatMap fun run =>
    (List.range ((run.last - run.first) / run.step + 1)).filterMap fun i =>
      let c := run.first + i * run.step
      (run.mapped? c).map (c, ·)

/-- The set with all characters that differ from one of its own only by case. -/
def foldUnicode (set : Ranges) : Ranges :=
  let folded := set.union <| .ofList <|
    (foldPairs.filter fun pair => set.contains pair.1).map fun pair => (pair.2, pair.2)
  folded.union <| .ofList <|
    (foldPairs.filter fun pair => folded.contains pair.2).map fun pair => (pair.1, pair.1)

/-- The letters of the other case, of the ASCII letters among a range. -/
def otherAsciiCase (range : Nat × Nat) : Ranges :=
  let moved (low high : Nat) (move : Nat → Nat) : Ranges :=
    let first := max range.1 low
    let last := min range.2 high
    if first ≤ last then [(move first, move last)] else []
  moved 0x41 0x5A (· + 32) ++ moved 0x61 0x7A (· - 32)

/-- The set with the ASCII letters of both cases. -/
def foldAscii (set : Ranges) : Ranges := set.union (.ofList (set.flatMap otherAsciiCase))

end RunRadar.Pattern
