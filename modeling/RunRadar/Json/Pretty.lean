import RunRadar.Json.Writer

/-!
# RunRadar.Json.Pretty

The **indented text** of a JSON value: every item and every member on a line of its own, two
blanks further in than what it belongs to. Empty arrays and objects take no lines.
-/

namespace RunRadar.Json

/-- The start of a line at a depth. -/
def newLine (depth : Nat) : String := "\n" ++ String.ofList (List.replicate (2 * depth) ' ')

/-- Parts between brackets, each on a line of its own. -/
def block (opening closing : String) (depth : Nat) (parts : List String) : String :=
  match parts with
  | [] => opening ++ closing
  | parts =>
    opening ++ newLine (depth + 1) ++ ("," ++ newLine (depth + 1)).intercalate parts ++
      newLine depth ++ closing

mutual
/-- The indented text of a value that begins at a depth. -/
def prettyAt (depth : Nat) : Json → String
  | .array items => block "[" "]" depth (prettyItems (depth + 1) items)
  | .object fields => block "\x7b" "\x7d" depth (fields.prettyMembers (depth + 1))
  | .null => text .null
  | .bool b => text (.bool b)
  | .number n => text (.number n)
  | .string s => text (.string s)
/-- The indented texts of items. -/
def prettyItems (depth : Nat) : List Json → List String
  | [] => []
  | item :: items => prettyAt depth item :: prettyItems depth items
/-- The indented texts of members. -/
def Fields.prettyMembers (depth : Nat) : {lower : Option String} → Fields lower → List String
  | _, .nil => []
  | _, .cons key _ value rest =>
    (text (.string key) ++ ": " ++ prettyAt depth value) :: rest.prettyMembers depth
end

/-- The indented text of a value. -/
def pretty (value : Json) : String := prettyAt 0 value

end RunRadar.Json
