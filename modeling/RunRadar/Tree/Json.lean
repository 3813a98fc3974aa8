import RunRadar.Json.Writer
import RunRadar.Tree.Basic

/-!
# RunRadar.Tree.Json

The **JSON form** of rule trees. A word is the identity of a connective; an array that begins
with a word joins the operands behind it; an object calls the filter under `id` with the
object under `params`. Everything else is malformed, and the first malformed node, in the
order in which the text is read, is the one reported.
-/

namespace RunRadar

/-! ### Malformed trees -/

/-- What is wrong with an object that should call a filter. -/
inductive LeafFault
  | missingId
  | badId (found : Json)
  | badParams (id : String) (found : Json)
deriving DecidableEq

def LeafFault.message : LeafFault → String
  | .missingId => "missing `id`"
  | .badId found => "`id` must be a non-empty string, got " ++ found.text
  | .badParams id found => "`params` of `" ++ id ++ "` must be an object, got " ++ found.text

/-- Why there is no tree. -/
inductive TreeError
  | unreadable
  | unknownOperator (word : String)
  | emptyCombinator
  | missingOperator (found : Json)
  | invalidLeaf (fault : LeafFault)
  | unexpectedValue (found : Json)
  | encoding
deriving DecidableEq

def TreeError.message : TreeError → String
  | .unreadable => "invalid JSON"
  | .unknownOperator word => "unknown combinator `" ++ word ++ "` (expected AND or OR)"
  | .emptyCombinator => "combinator array is empty"
  | .missingOperator found => "combinator array must start with AND or OR, found " ++ found.text
  | .invalidLeaf fault => "invalid leaf: " ++ fault.message
  | .unexpectedValue found => "unexpected value in logic tree: " ++ found.text
  | .encoding => "serialized logic is not a single encoded value"

namespace Tree

/-! ### Reading -/

/-- The connective that an array begins with. -/
def headOperator : Json → Except TreeError Connective
  | .string word =>
    match Connective.ofWord? word with
    | some op => .ok op
    | none => .error (.unknownOperator word)
  | found => .error (.missingOperator found)

/-- The params of a leaf, where absent and null params are none. -/
def readParams (id : String) : Option Json → Except TreeError Json.Object
  | none => .ok .nil
  | some .null => .ok .nil
  | some (.object params) => .ok params
  | some found => .error (.invalidLeaf (.badParams id found))

/-- The leaf that an object stands for. -/
def readLeaf (fields : Json.Object) : Except TreeError Leaf :=
  match fields.get? "id" with
  | none => .error (.invalidLeaf .missingId)
  | some (.string id) =>
    if id = "" then .error (.invalidLeaf (.badId (.string id)))
    else
      match readParams id (fields.get? "params") with
      | .ok params => .ok ⟨id, params⟩
      | .error e => .error e
  | some found => .error (.invalidLeaf (.badId found))

mutual
/-- The tree that a JSON value stands for. -/
def ofJson : Json → Except TreeError Tree
  | .string word =>
    match Connective.ofWord? word with
    | some op => .ok (.identity op)
    | none => .error (.unknownOperator word)
  | .array [] => .error .emptyCombinator
  | .array (head :: items) =>
    match headOperator head with
    | .error e => .error e
    | .ok op =>
      match ofJsonAll items with
      | .error e => .error e
      | .ok operands => .ok (.combine op operands)
  | .object fields =>
    match readLeaf fields with
    | .error e => .error e
    | .ok l => .ok (.leaf l)
  | found => .error (.unexpectedValue found)
/-- The trees that JSON values stand for, or the first error among them. -/
def ofJsonAll : List Json → Except TreeError (List Tree)
  | [] => .ok []
  | item :: items =>
    match ofJson item with
    | .error e => .error e
    | .ok t =>
      match ofJsonAll items with
      | .error e => .error e
      | .ok ts => .ok (t :: ts)
end

/-! ### Writing -/

/-- The members of a written leaf. -/
def leafFields (l : Leaf) : Json.Object :=
  .cons "id" (by simp) (.string l.id)
    (.cons "params" (by decide) (.object l.params) .nil)

mutual
/-- The JSON form of a tree. -/
def toJson : Tree → Json
  | .combine op operands => .array (.string op.word :: toJsonAll operands)
  | .leaf l => .object (leafFields l)
  | .identity op => .string op.word
/-- The JSON forms of operands. -/
def toJsonAll : List Tree → List Json
  | [] => []
  | t :: ts => t.toJson :: toJsonAll ts
end

/-- The compact text of a tree. -/
def text (t : Tree) : String := t.toJson.text

end Tree

end RunRadar
