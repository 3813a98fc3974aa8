import RunRadar.Text.Hex

/-!
# RunRadar.Uuid

Identifiers of **one hundred and twenty-eight bits**. They are read in four forms (with or
without hyphens, in braces, as a URN) and always written in lower case with hyphens.
-/

namespace RunRadar

/-- A universally unique identifier. -/
structure Uuid where
  value : BitVec 128
deriving DecidableEq

namespace Uuid

/-- The identifier with no bit set. -/
def nil : Uuid := ⟨0⟩

instance : Inhabited Uuid := ⟨nil⟩

/-! ### Writing -/

/-- The lowest `count` hexadecimal digits of a number. -/
def hexDigits (n : Nat) : (count : Nat) → List Char
  | 0 => []
  | count + 1 => hexDigits (n / 16) count ++ [Text.hexDigit (n % 16)]

/-- The written form: groups of 8, 4, 4, 4 and 12 digits. -/
def text (id : Uuid) : String :=
  let n := id.value.toNat
  String.ofList <|
    hexDigits (n >>> 96) 8 ++ '-' :: hexDigits (n >>> 80) 4 ++ '-' :: hexDigits (n >>> 64) 4 ++
      '-' :: hexDigits (n >>> 48) 4 ++ '-' :: hexDigits n 12

/-! ### Reading -/

/-- The number that hexadecimal digits stand for. -/
def hexNumber? (cs : List Char) : Option Nat :=
  cs.foldlM (fun n c => (Text.hexValue? c).map (16 * n + ·)) 0

/-- The identifier that thirty-two digits stand for. -/
def ofDigits? (cs : List Char) : Option Uuid :=
  if cs.length = 32 then (hexNumber? cs).map fun n => ⟨.ofNat _ n⟩ else none

/-- The identifier that thirty-six characters with hyphens in their places stand for. -/
def ofHyphenated? (cs : List Char) : Option Uuid :=
  let hyphens := [8, 13, 18, 23]
  if cs.length = 36 ∧ hyphens.all (fun i => cs[i]? = some '-') then
    ofDigits? (cs.take 8 ++ (cs.drop 9).take 4 ++ (cs.drop 14).take 4 ++ (cs.drop 19).take 4 ++
      cs.drop 24)
  else none

/-- Reads an identifier in any of its forms. -/
def read? (text : String) : Option Uuid :=
  let cs := text.toList
  match cs with
  | '\x7b' :: rest =>
    if rest.getLast? = some '\x7d' then ofHyphenated? rest.dropLast else none
  | 'u' :: 'r' :: 'n' :: ':' :: 'u' :: 'u' :: 'i' :: 'd' :: ':' :: rest => ofHyphenated? rest
  | cs => if cs.length = 32 then ofDigits? cs else ofHyphenated? cs

/-! ### Sets -/

/-- Whether one identifier stands before another. -/
def le (a b : Uuid) : Bool := a.value ≤ b.value

/-- Identifiers in increasing order, each once. -/
def distinctSorted (ids : List Uuid) : List Uuid := ids.eraseDups.mergeSort le

end Uuid

end RunRadar
