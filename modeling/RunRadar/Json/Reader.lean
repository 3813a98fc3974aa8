import RunRadar.Json.Basic
import RunRadar.Number.Reading
import RunRadar.Text.Hex

/-!
# RunRadar.Json.Reader

Reads **JSON text**. A text is one value between blanks; values nest at most `maxDepth`
arrays and objects deep; of several members under one key the last one stays.

Doubles are read in two roundings. The digits of a number are collected into a
significand of sixty-four bits, the digits that no longer fit are dropped, and the
rounded significand is then multiplied or divided by a power of ten. A whole number that
fits is kept exactly; `-0`, fractions, exponents and everything larger are doubles.
-/

namespace RunRadar.Json

open Text (hexValue?)

/-- What a reader returns: a result and the text behind it. -/
abbrev Reading (α : Type) := Option (α × List Char)

/-! ### Blanks and strings -/

/-- The four characters that may stand between the tokens of a JSON text. -/
def isBlank (c : Char) : Bool := c = ' ' || c = '\n' || c = '\t' || c = '\r'

def skipBlanks (cs : List Char) : List Char := cs.dropWhile isBlank

/-- The number that four hexadecimal digits stand for. -/
def hexValue4? (a b c d : Char) : Option Nat := do
  let a ← hexValue? a
  let b ← hexValue? b
  let c ← hexValue? c
  let d ← hexValue? d
  some (((a * 16 + b) * 16 + c) * 16 + d)

/-- The character that a one-letter escape stands for. -/
def simpleEscape? (c : Char) : Option Char :=
  if c = '"' ∨ c = '\\' ∨ c = '/' then some c
  else if c = 'b' then some '\x08'
  else if c = 'f' then some '\x0c'
  else if c = 'n' then some '\n'
  else if c = 'r' then some '\r'
  else if c = 't' then some '\t'
  else none

/-- The character of a high and a low surrogate. -/
def joinSurrogates? (high low : Nat) : Option Char :=
  if 0xDC00 ≤ low ∧ low < 0xE000 then
    some (Char.ofNat (0x10000 + (high - 0xD800) * 0x400 + (low - 0xDC00)))
  else none

/-- The characters of a string, read up to its closing quote. An escaped surrogate needs
its partner right behind it, and control characters have to be escaped. -/
def readString : List Char → Reading (List Char)
  | [] => none
  | '"' :: rest => some ([], rest)
  | '\\' :: 'u' :: a :: b :: c :: d :: rest =>
    match hexValue4? a b c d with
    | none => none
    | some n =>
      if 0xD800 ≤ n ∧ n < 0xDC00 then
        match rest with
        | '\\' :: 'u' :: e :: f :: g :: h :: rest =>
          match (hexValue4? e f g h).bind (joinSurrogates? n) with
          | none => none
          | some x => (readString rest).map fun (text, rest) => (x :: text, rest)
        | _ => none
      else if 0xDC00 ≤ n ∧ n < 0xE000 then none
      else (readString rest).map fun (text, rest) => (Char.ofNat n :: text, rest)
  | '\\' :: c :: rest =>
    match simpleEscape? c with
    | none => none
    | some x => (readString rest).map fun (text, rest) => (x :: text, rest)
  | c :: rest =>
    if c = '\\' ∨ c.toNat < 0x20 then none
    else (readString rest).map fun (text, rest) => (c :: text, rest)

/-! ### Numbers -/

/-- Appends digits to a significand as long as it has room in sixty-four bits, and counts the
digits appended. -/
def fitDigits (significand : Nat) : List Char → Nat × Nat
  | [] => (significand, 0)
  | c :: rest =>
    let next := 10 * significand + (c.toNat - '0'.toNat)
    if next < UInt64.size then
      let (total, count) := fitDigits next rest
      (total, count + 1)
    else (significand, 0)

/-- A power of ten as a double. -/
def powerOfTen (e : Nat) : Binary64 := .ofNat (Nat.pow 10 e)

/-- Divides by a power of ten in steps of at most `10 ^ 308`; after the second full step
nothing is left of a significand. -/
def divideByPower (x : Binary64) (e : Nat) : Binary64 :=
  if e ≤ 308 then x.div (powerOfTen e)
  else if e ≤ 616 then (x.div (powerOfTen 308)).div (powerOfTen (e - 308))
  else .zero false

/-- The double of a significand and a power of ten. There is none beyond the finite ones. -/
def scale? (negative : Bool) (significand : Nat) (exponent : Int) : Option Number :=
  let x := Binary64.ofNat significand
  let scaled :=
    if significand = 0 then some x
    else if exponent < 0 then some (divideByPower x (-exponent).toNat)
    else if exponent ≤ 308 then some (x.mul (powerOfTen exponent.toNat))
    else none
  match scaled with
  | none => none
  | some x =>
    let y := if negative then x.neg else x
    if finite : y.isFinite = true then some (.double y finite) else none

/-- The fraction of a number, if the text goes on with one: a point and digits. -/
def readFraction : List Char → Reading (Option (List Char))
  | '.' :: cs =>
    let (digits, rest) := spanDigits cs
    if digits = [] then none else some (some digits, rest)
  | cs => some (none, cs)

/-- The exponent of a number, if the text goes on with one. -/
def readExponent : List Char → Reading (Option Int)
  | c :: cs =>
    if c = 'e' ∨ c = 'E' then
      let (negative, cs) := match cs with
        | '+' :: cs => (false, cs)
        | '-' :: cs => (true, cs)
        | cs => (false, cs)
      let (digits, rest) := spanDigits cs
      if digits = [] then none
      else
        let n : Int := digitsValue digits
        some (some (if negative then -n else n), rest)
    else some (none, c :: cs)
  | [] => some (none, [])

/-- The number that its written parts stand for. -/
def numberOf? (negative : Bool) (whole : List Char) (fraction : Option (List Char))
    (exponent : Option Int) : Option Number :=
  let (significand, kept) := fitDigits 0 whole
  let dropped : Int := whole.length - kept
  match fraction, exponent with
  | none, none =>
    let i : Int := if negative then -(significand : Int) else significand
    if kept = whole.length ∧ ¬(negative ∧ significand = 0) then
      if fits : Fits i then some (.integer i fits) else scale? negative significand 0
    else scale? negative significand dropped
  | fraction, exponent =>
    let (significand, places) := fitDigits significand (fraction.getD [])
    scale? negative significand (dropped - places + exponent.getD 0)

/-- A number: no zero in front of another digit, no point without digits on both sides. -/
def readNumber (cs : List Char) : Option (Number × List Char) := do
  let (negative, cs) := match cs with
    | '-' :: cs => (true, cs)
    | cs => (false, cs)
  let (whole, rest) := spanDigits cs
  if whole = [] ∨ (whole.head? = some '0' ∧ whole.length ≠ 1) then none
  else
    let (fraction, rest) ← readFraction rest
    let (exponent, rest) ← readExponent rest
    let n ← numberOf? negative whole fraction exponent
    some (n, rest)

/-! ### Values -/

/-- Items up to the closing bracket, at least one. `steps` bounds their number. -/
def readItems (readOne : List Char → Reading Json) :
    (steps : Nat) → List Char → Reading (List Json)
  | 0, _ => none
  | steps + 1, cs =>
    match readOne (skipBlanks cs) with
    | none => none
    | some (item, cs) =>
      match skipBlanks cs with
      | ',' :: cs => (readItems readOne steps cs).map fun (items, cs) => (item :: items, cs)
      | ']' :: cs => some ([item], cs)
      | _ => none

/-- Members up to the closing brace, at least one, put into the object read so far. -/
def readMembers (readOne : List Char → Reading Json) :
    (steps : Nat) → Object → List Char → Reading Object
  | 0, _, _ => none
  | steps + 1, fields, cs =>
    match skipBlanks cs with
    | '"' :: cs =>
      match readString cs with
      | none => none
      | some (key, cs) =>
        match skipBlanks cs with
        | ':' :: cs =>
          match readOne (skipBlanks cs) with
          | none => none
          | some (value, cs) =>
            let fields := fields.insert (String.ofList key) value
            match skipBlanks cs with
            | ',' :: cs => readMembers readOne steps fields cs
            | '\x7d' :: cs => some (fields, cs)
            | _ => none
        | _ => none
    | _ => none

/-- A value that nests at most `room` arrays and objects deep, at the head of the text. -/
def readValue : (room : Nat) → List Char → Reading Json
  | _, 'n' :: 'u' :: 'l' :: 'l' :: rest => some (.null, rest)
  | _, 't' :: 'r' :: 'u' :: 'e' :: rest => some (.bool true, rest)
  | _, 'f' :: 'a' :: 'l' :: 's' :: 'e' :: rest => some (.bool false, rest)
  | _, '"' :: rest => (readString rest).map fun (text, rest) => (.string (.ofList text), rest)
  | 0, '[' :: _ => none
  | room + 1, '[' :: rest =>
    match skipBlanks rest with
    | ']' :: rest => some (.array [], rest)
    | rest =>
      (readItems (readValue room) rest.length rest).map fun (items, rest) =>
        (.array items, rest)
  | 0, '\x7b' :: _ => none
  | room + 1, '\x7b' :: rest =>
    match skipBlanks rest with
    | '\x7d' :: rest => some (.object .nil, rest)
    | rest =>
      (readMembers (readValue room) rest.length .nil rest).map fun (fields, rest) =>
        (.object fields, rest)
  | _, cs => (readNumber cs).map fun (n, rest) => (.number n, rest)

/-- The greatest depth of arrays and objects in a text. -/
def maxDepth : Nat := 127

/-- The value of a JSON text. -/
def read? (text : String) : Option Json :=
  match readValue maxDepth (skipBlanks text.toList) with
  | some (value, rest) => if skipBlanks rest = [] then some value else none
  | none => none

end RunRadar.Json
