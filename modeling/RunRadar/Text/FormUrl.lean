import RunRadar.Text.Hex
import RunRadar.Text.Utf8

/-!
# RunRadar.Text.FormUrl

The **form encoding** of URLs (`application/x-www-form-urlencoded`). Writing turns a text
into letters, digits, `*-._`, a plus for each space and a percent escape for every other
byte. Reading takes pieces between ampersands, a name up to the first equals sign and a value
behind it, and undoes plus signs and escapes; an escape without two hexadecimal digits
stands for itself.
-/

namespace RunRadar.Text.FormUrl

/-! ### Writing -/

/-- The bytes that are written as they are. -/
def isPlain (b : UInt8) : Bool :=
  ('0'.toUInt8 ≤ b && b ≤ '9'.toUInt8) || ('A'.toUInt8 ≤ b && b ≤ 'Z'.toUInt8) ||
    ('a'.toUInt8 ≤ b && b ≤ 'z'.toUInt8) || b = '*'.toUInt8 || b = '-'.toUInt8 ||
    b = '.'.toUInt8 || b = '_'.toUInt8

/-- How one byte is written. -/
def encodeByte (b : UInt8) : List Char :=
  if isPlain b then [Char.ofNat b.toNat]
  else if b = ' '.toUInt8 then ['+']
  else ['%', upperHexDigit (b.toNat / 16), upperHexDigit (b.toNat % 16)]

/-- The written form of a text. -/
def encode (text : String) : String := String.ofList ((toBytes text).flatMap encodeByte)

/-! ### Reading -/

/-- Undoes percent escapes. -/
def decodeEscapes : Bytes → Bytes
  | [] => []
  | [a] => [a]
  | [a, b] => [a, b]
  | a :: b :: c :: rest =>
    if a = '%'.toUInt8 then
      match hexValue? (Char.ofNat b.toNat), hexValue? (Char.ofNat c.toNat) with
      | some high, some low => UInt8.ofNat (high * 16 + low) :: decodeEscapes rest
      | _, _ => a :: decodeEscapes (b :: c :: rest)
    else a :: decodeEscapes (b :: c :: rest)

/-- The text that a name or value stands for. -/
def decodePiece (bytes : Bytes) : String :=
  ofBytesLossy (decodeEscapes (bytes.map fun b => if b = '+'.toUInt8 then ' '.toUInt8 else b))

/-- The pieces between separators. -/
def split (separator : UInt8) : Bytes → List Bytes
  | [] => [[]]
  | b :: rest =>
    match split separator rest with
    | [] => [[b]]
    | piece :: pieces => if b = separator then [] :: piece :: pieces else (b :: piece) :: pieces

/-- The name and the value of one piece. -/
def decodePair (piece : Bytes) : String × String :=
  let isName (b : UInt8) : Bool := b != '='.toUInt8
  (decodePiece (piece.takeWhile isName), decodePiece ((piece.dropWhile isName).drop 1))

/-- The pairs of names and values in a text. Empty pieces are no pairs. -/
def decode (text : String) : List (String × String) :=
  ((split '&'.toUInt8 (toBytes text)).filter (· ≠ [])).map decodePair

end RunRadar.Text.FormUrl
