import RunRadar.Text.Hex
import RunRadar.Unicode.Property

/-!
# RunRadar.Text.Quoted

Texts in **quotation marks**, as messages list them. Quotation marks and backslashes are
escaped, and so are the characters that would not be seen: those without a form of their own
and those that only change the character before them.
-/

namespace RunRadar.Text

/-- The categories of the code points without a visible form. -/
def invisibleCategories : List String := ["Cc", "Cf", "Cs", "Co", "Cn", "Zl", "Zp", "Zs"]

/-- Whether a character is seen as itself. -/
def isVisible (c : Char) : Bool :=
  if c.toNat < 0x7F then ' ' ≤ c
  else !invisibleCategories.contains (Unicode.category c.toNat) &&
    !Unicode.isGraphemeExtend c.toNat

/-- A character by its code point. -/
def codePointEscape (c : Char) : List Char :=
  ['\\', 'u', '\x7b'] ++ Nat.toDigits 16 c.toNat ++ ['\x7d']

/-- A character between quotation marks. -/
def quoteChar (c : Char) : List Char :=
  if c = '"' then ['\\', '"']
  else if c = '\\' then ['\\', '\\']
  else if c = '\n' then ['\\', 'n']
  else if c = '\r' then ['\\', 'r']
  else if c = '\t' then ['\\', 't']
  else if c = '\x00' then ['\\', '0']
  else if isVisible c then [c]
  else codePointEscape c

/-- A text in quotation marks. -/
def quoted (text : String) : String :=
  String.ofList ('"' :: text.toList.flatMap quoteChar ++ ['"'])

/-- A list of texts in quotation marks. -/
def quotedList (texts : List String) : String :=
  "[" ++ ", ".intercalate (texts.map quoted) ++ "]"

end RunRadar.Text
