import RunRadar.Json.Basic
import RunRadar.Number.Binary64
import RunRadar.Uuid

/-!
# RunRadar.Sql.Statement

**Statements** for a PostgreSQL server: SQL text with numbered placeholders, and the
parameters that stand at them.

A statement is put together from pieces, which are either SQL of this library's own or a
parameter. The placeholder of a parameter carries its place among the parameters, so texts
and parameters always line up, and no value ever becomes part of the text.
-/

namespace RunRadar.Sql

/-- A value sent beside the text of a statement. -/
inductive Parameter
  | text (s : String)
  | number (x : Binary64)
  | integer (i : Int)
  | uuid (id : Uuid)
  | texts (values : List String)
  | uuids (ids : List Uuid)
  | bool (b : Bool)
  | json (value : Json)
  | null
deriving DecidableEq

/-- Nothing is sent as null. -/
def Parameter.ofOption {α : Type} (parameter : α → Parameter) : Option α → Parameter
  | none => .null
  | some a => parameter a

/-- A piece of a statement. -/
inductive Piece
  | sql (text : String)
  | bind (parameter : Parameter)
deriving DecidableEq

/-- A statement that can be sent. -/
structure Statement where
  sql : String
  parameters : List Parameter
deriving DecidableEq

namespace Piece

/-- The parameter that a piece is. -/
def parameter? : Piece → Option Parameter
  | .sql _ => none
  | .bind p => some p

/-- The placeholder of the `n`-th parameter, counted from one. -/
def placeholder (n : Nat) : String := "$" ++ toString n

/-- The texts of the pieces, when `next` is the number of the next placeholder. -/
def texts (next : Nat) : List Piece → List String
  | [] => []
  | .sql text :: rest => text :: texts next rest
  | .bind _ :: rest => placeholder next :: texts (next + 1) rest

@[simp] theorem texts_nil (next : Nat) : texts next [] = [] := rfl

@[simp] theorem texts_sql (next : Nat) (text : String) (rest : List Piece) :
    texts next (.sql text :: rest) = text :: texts next rest := rfl

@[simp] theorem texts_bind (next : Nat) (p : Parameter) (rest : List Piece) :
    texts next (.bind p :: rest) = placeholder next :: texts (next + 1) rest := rfl

/-- Each piece has one text. -/
@[simp] theorem length_texts (next : Nat) (pieces : List Piece) :
    (texts next pieces).length = pieces.length := by
  induction pieces generalizing next with
  | nil => rfl
  | cons piece rest ih => cases piece <;> simp [ih]

/-- The pieces behind others count on from the parameters of those. -/
theorem texts_append (next : Nat) (before after : List Piece) :
    texts next (before ++ after) =
      texts next before ++ texts (next + (before.filterMap parameter?).length) after := by
  induction before generalizing next with
  | nil => simp
  | cons piece rest ih =>
    cases piece <;>
      simp [ih, parameter?, List.filterMap_cons, Nat.add_assoc, Nat.add_comm 1]

end Piece

namespace Statement

/-- The statement made of the given pieces. -/
def ofPieces (pieces : List Piece) : Statement :=
  ⟨String.join (Piece.texts 1 pieces), pieces.filterMap Piece.parameter?⟩

/-- A statement whose text is written out, placeholders and all. -/
def fixed (sql : String) (parameters : List Parameter) : Statement := ⟨sql, parameters⟩

end Statement

end RunRadar.Sql
