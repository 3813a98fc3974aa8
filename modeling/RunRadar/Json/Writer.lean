import RunRadar.Json.Basic
import RunRadar.Number.Shortest
import RunRadar.Text.Hex

/-!
# RunRadar.Json.Writer

The **compact text** of a JSON value: no blanks, members in order of their keys, and only
the escapes that are needed. `write v rest` is the text of `v` followed by `rest`, so that
nested values are written without joining texts, and a reader can be stated to stop exactly
where the value ends.
-/

namespace RunRadar.Json

open Text (hexDigit)

/-! ### Strings -/

/-- How one character stands inside a quoted string. -/
def escape (c : Char) : List Char :=
  if c = '"' then ['\\', '"']
  else if c = '\\' then ['\\', '\\']
  else if c = '\n' then ['\\', 'n']
  else if c = '\r' then ['\\', 'r']
  else if c = '\t' then ['\\', 't']
  else if c = '\x08' then ['\\', 'b']
  else if c = '\x0c' then ['\\', 'f']
  else if c.toNat < 0x20 then
    ['\\', 'u', '0', '0', hexDigit (c.toNat / 16), hexDigit (c.toNat % 16)]
  else [c]

/-- A quoted string, then `rest`. -/
def writeString (text : String) (rest : List Char) : List Char :=
  '"' :: (text.toList.flatMap escape ++ '"' :: rest)

/-- A number, then `rest`. -/
def Number.write (number : Number) (rest : List Char) : List Char :=
  match number with
  | .integer i _ => (toString i).toList ++ rest
  | .double x _ => x.jsonText.toList ++ rest

/-! ### Values -/

mutual
/-- A value, then `rest`. -/
def write : Json → List Char → List Char
  | .null, rest => 'n' :: 'u' :: 'l' :: 'l' :: rest
  | .bool true, rest => 't' :: 'r' :: 'u' :: 'e' :: rest
  | .bool false, rest => 'f' :: 'a' :: 'l' :: 's' :: 'e' :: rest
  | .number n, rest => n.write rest
  | .string text, rest => writeString text rest
  | .array [], rest => '[' :: ']' :: rest
  | .array (item :: items), rest => '[' :: item.write (writeItems items (']' :: rest))
  | .object .nil, rest => '\x7b' :: '\x7d' :: rest
  | .object (.cons key _ value fields), rest =>
    '\x7b' :: writeString key (':' :: value.write (fields.write ('\x7d' :: rest)))
/-- Further items of an array, each after a comma. -/
def writeItems : List Json → List Char → List Char
  | [], rest => rest
  | item :: items, rest => ',' :: item.write (writeItems items rest)
/-- Further members of an object, each after a comma. -/
def Fields.write : {lower : Option String} → Fields lower → List Char → List Char
  | _, .nil, rest => rest
  | _, .cons key _ value fields, rest =>
    ',' :: writeString key (':' :: value.write (fields.write rest))
end

/-- The compact text of a value. -/
def text (value : Json) : String := String.ofList (value.write [])

end RunRadar.Json
