/-!
# RunRadar.Text.Utf8

Bytes as **UTF-8 text that may be damaged**. Well-formed bytes are the text they encode.
Otherwise every longest beginning of a character that is cut short or goes wrong becomes one
replacement character, and so does every byte that begins no character.
-/

namespace RunRadar.Text

/-- A byte sequence. -/
abbrev Bytes := List UInt8

/-- The UTF-8 bytes of a text. -/
def toBytes (text : String) : Bytes := text.toByteArray.data.toList

/-- A character begun: how many bytes it still needs, where the next one must lie, and the
bits collected. -/
structure Utf8Partial where
  needed : Nat
  low : Nat
  high : Nat
  value : Nat

/-- A decoder's reaction to one byte: characters to put out, and a character begun. -/
abbrev Utf8Step := List Char × Option Utf8Partial

def replacement : Char := '\uFFFD'

/-- A byte where a character has to begin. -/
def Utf8Step.first (b : Nat) : Utf8Step :=
  if b < 0x80 then ([Char.ofNat b], none)
  else if 0xC2 ≤ b ∧ b ≤ 0xDF then ([], some ⟨1, 0x80, 0xBF, b - 0xC0⟩)
  else if 0xE0 ≤ b ∧ b ≤ 0xEF then
    let low := if b = 0xE0 then 0xA0 else 0x80
    let high := if b = 0xED then 0x9F else 0xBF
    ([], some ⟨2, low, high, b - 0xE0⟩)
  else if 0xF0 ≤ b ∧ b ≤ 0xF4 then
    let low := if b = 0xF0 then 0x90 else 0x80
    let high := if b = 0xF4 then 0x8F else 0xBF
    ([], some ⟨3, low, high, b - 0xF0⟩)
  else ([replacement], none)

/-- A byte behind a character begun: it goes on with it, or ends it early and begins anew. -/
def Utf8Step.next (p : Utf8Partial) (b : Nat) : Utf8Step :=
  if p.low ≤ b ∧ b ≤ p.high then
    let value := p.value * 64 + (b - 0x80)
    if p.needed ≤ 1 then ([Char.ofNat value], none)
    else ([], some ⟨p.needed - 1, 0x80, 0xBF, value⟩)
  else
    let (out, rest) := Utf8Step.first b
    (replacement :: out, rest)

/-- Decodes bytes behind a character begun, replacing what is ill-formed. -/
def decodeFrom : Option Utf8Partial → Bytes → List Char
  | none, [] => []
  | some _, [] => [replacement]
  | state, b :: rest =>
    let (out, state) := match state with
      | none => Utf8Step.first b.toNat
      | some p => Utf8Step.next p b.toNat
    out ++ decodeFrom state rest

/-- The text that bytes encode, with replacement characters for what is ill-formed. -/
def ofBytesLossy (bytes : Bytes) : String :=
  match String.fromUTF8? ⟨bytes.toArray⟩ with
  | some text => text
  | none => String.ofList (decodeFrom none bytes)

end RunRadar.Text
