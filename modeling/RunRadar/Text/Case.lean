import RunRadar.Text.CaseTable

/-!
# RunRadar.Text.Case

Full Unicode **lower-casing and upper-casing** of texts. Both work character by character,
with one exception: a capital sigma becomes a final sigma when it ends a word, that is,
when a cased character stands before it and none behind it, case-ignorable characters
aside.
-/

namespace RunRadar.Text

/-! ### Lower case -/

/-- Whether a text begins with a cased character, after case-ignorable ones. -/
def meetsCased (cs : List Char) : Bool :=
  match cs.dropWhile fun c => caseIgnorable.contains c.toNat with
  | [] => false
  | c :: _ => cased.contains c.toNat

/-- The lower-case sigma between the characters `before` it, nearest first, and `after` it. -/
def lowerSigma (before after : List Char) : Char :=
  if meetsCased before && !meetsCased after then 'ς' else 'σ'

/-- The lower-case form of a character that does not depend on its neighbours. -/
def lowerChar (c : Char) : List Char :=
  if c = 'İ' then ['i', '\u0307'] else [Char.ofNat (mapCase lowerRuns c.toNat)]

/-- The lower-case form of the characters that follow `before`, nearest first. -/
def lowerAfter (before : List Char) : List Char → List Char
  | [] => []
  | c :: rest =>
    let lowered := if c = 'Σ' then [lowerSigma before rest] else lowerChar c
    lowered ++ lowerAfter (c :: before) rest

/-- The lower-case form of a list of characters. -/
def lowerChars (cs : List Char) : List Char := lowerAfter [] cs

/-! ### Upper case -/

/-- The upper-case form of a character. -/
def upperChar (c : Char) : List Char :=
  match upperExpansions.find? (·.1 = c.toNat) with
  | some (_, codes) => codes.map Char.ofNat
  | none => [Char.ofNat (mapCase upperRuns c.toNat)]

/-- The upper-case form of a text. -/
def toUpper (text : String) : String := String.ofList (text.toList.flatMap upperChar)

end RunRadar.Text
