import RunRadar.Json.Reader
import RunRadar.Text.FormUrl
import RunRadar.Tree.Json

/-!
# RunRadar.Tree.Wire

The **URL form** of rule trees, for links and saved views: the compact JSON text, form
encoded. It is the name of a single pair without a value. Members of an object are written
in order, so a tree has one URL form.
-/

namespace RunRadar.Tree

/-- The URL form of a tree. -/
def encode (t : Tree) : String := Text.FormUrl.encode t.text

/-- The tree of a URL form. -/
def decode (encoded : String) : Except TreeError Tree :=
  match Text.FormUrl.decode encoded with
  | [(name, "")] =>
    match Json.read? name with
    | none => .error .unreadable
    | some value => ofJson value
  | _ => .error .encoding

/-- The tree of a URL form that a user may have changed: a malformed one selects everything. -/
def decodeOrEverything (encoded : String) : Tree :=
  match decode encoded with
  | .ok t => t
  | .error _ => everything

end RunRadar.Tree
