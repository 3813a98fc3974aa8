import RunRadar.Predicate.Basic
import RunRadar.Run.Basic
import RunRadar.Sql.Statement
import RunRadar.Tree.Basic

/-!
# RunRadar.Sql.Condition

**Conditions in SQL**, over a row `r` of the table of runs, and the SQL they are written as.
A storage condition becomes one of these (`Predicate.condition`): empty conjunctions and
disjunctions, empty lists and empty searches are constants here, and a search is a
disjunction with one `ILIKE` for each field.

Every literal is a parameter. That goes for the key of a metadata value too.
-/

namespace RunRadar

namespace Sql

/-! ### Patterns of LIKE -/

/-- A character of a pattern that stands for the given one alone. -/
def escapeLike (c : Char) : List Char := if c = '\\' ∨ c = '%' ∨ c = '_' then ['\\', c] else [c]

/-- The pattern for texts that contain the needle. -/
def likePattern (needle : String) : String :=
  String.ofList ('%' :: needle.toList.flatMap escapeLike ++ ['%'])

/-! ### Conditions -/

/-- A condition on a row. -/
inductive Condition
  | constant (value : Bool)
  /-- At least one condition, all joined by one connective. -/
  | join (op : Connective) (first : Condition) (rest : List Condition)
  | compare (field : Field) (op : Operator) (value : Scalar)
  | isOneOf (field : Field) (first : Scalar) (rest : List Scalar)
  | overlaps (field : Field) (values : List String)
  /-- The field is like the pattern, whatever the case. -/
  | like (field : Field) (pattern : String)
  /-- Some string in the payload is like the pattern, whatever the case. -/
  | someStringLike (payload : Payload) (pattern : String)

namespace Condition

/-- The given conditions, joined. -/
def joined (op : Connective) : List Condition → Condition
  | [] => .constant op.identity
  | first :: rest => .join op first rest

end Condition

end Sql

namespace Predicate

open Sql (Condition)

/-- The test of one field in a search. -/
def searchCondition (pattern : String) : Field → Condition
  | .input => .someStringLike .input pattern
  | .output => .someStringLike .output pattern
  | field => .like field pattern

mutual
/-- The SQL condition for a storage condition. -/
def condition : Predicate → Condition
  | .always => .constant true
  | .never => .constant false
  | .all parts => .joined .and (conditions parts)
  | .any parts => .joined .or (conditions parts)
  | .compare field op value => .compare field op value
  | .isOneOf _ [] => .constant false
  | .isOneOf field (first :: rest) => .isOneOf field first rest
  | .overlaps field values => .overlaps field values
  | .contains fields needle =>
    .joined .or (fields.map (searchCondition (Sql.likePattern needle)))
/-- The SQL conditions for storage conditions. -/
def conditions : List Predicate → List Condition
  | [] => []
  | p :: ps => p.condition :: conditions ps
end

@[simp] theorem conditions_eq_map (ps : List Predicate) : conditions ps = ps.map condition := by
  induction ps with
  | nil => rfl
  | cons p ps ih => simp [conditions, ih]

end Predicate

namespace Sql

/-! ### Writing -/

/-- A literal as a parameter. -/
def Parameter.ofScalar : Scalar → Parameter
  | .text s => .text s
  | .number x => .number x
  | .integer i => .integer i

/-- The expression for a field. -/
def fieldPieces : Field → List Piece
  | .kind => [.sql "r.type"]
  | .name => [.sql "r.name"]
  | .status => [.sql "r.status"]
  | .externalUser => [.sql "r.external_user_id"]
  | .durationMs => [.sql "(extract(epoch from (r.ended_at - r.created_at)) * 1000)"]
  | .cost => [.sql "r.cost"]
  | .totalTokens =>
    [.sql "(coalesce(r.prompt_tokens, 0) + coalesce(r.completion_tokens, 0))"]
  | .tags => [.sql "r.tags"]
  | .metadata key => [.sql "(r.metadata ->> ", .bind (.text key), .sql ")"]
  | .input => [.sql "r.input::text"]
  | .output => [.sql "r.output::text"]

/-- The column of a payload. -/
def payloadColumn : Payload → String
  | .input => "r.input"
  | .output => "r.output"

/-- The word between joined conditions. -/
def separator : Connective → String
  | .and => " AND "
  | .or => " OR "

/-- Scalars behind the first one of a list. -/
def furtherScalars (scalars : List Scalar) : List Piece :=
  scalars.flatMap fun value => [.sql ", ", .bind (.ofScalar value)]

/-- The test of all strings in a payload. -/
def someStringPieces (payload : Payload) (pattern : String) : List Piece :=
  [.sql ("EXISTS (SELECT 1 FROM jsonb_path_query(" ++ payloadColumn payload ++
      ", 'strict $.**') AS j(item) WHERE jsonb_typeof(j.item) = 'string' AND " ++
      "(j.item #>> '\x7b\x7d') ILIKE "),
   .bind (.text pattern), .sql ")"]

namespace Condition

mutual
/-- A condition as SQL. -/
def pieces : Condition → List Piece
  | .constant true => [.sql "true"]
  | .constant false => [.sql "false"]
  | .join op first rest => .sql "(" :: first.pieces ++ furtherPieces op rest ++ [.sql ")"]
  | .compare field op value =>
    .sql "(" :: fieldPieces field ++
      [.sql (" " ++ op.sql ++ " "), .bind (.ofScalar value), .sql ")"]
  | .isOneOf field first rest =>
    .sql "(" :: fieldPieces field ++ .sql " IN (" :: .bind (.ofScalar first) ::
      furtherScalars rest ++ [.sql "))"]
  | .overlaps field values =>
    .sql "(" :: fieldPieces field ++ [.sql " && ", .bind (.texts values), .sql ")"]
  | .like field pattern => fieldPieces field ++ [.sql " ILIKE ", .bind (.text pattern)]
  | .someStringLike payload pattern => someStringPieces payload pattern
/-- Conditions behind the first one of a junction. -/
def furtherPieces (op : Connective) : List Condition → List Piece
  | [] => []
  | c :: cs => .sql (separator op) :: c.pieces ++ furtherPieces op cs
end

@[simp] theorem furtherPieces_eq_flatMap (op : Connective) (cs : List Condition) :
    furtherPieces op cs = cs.flatMap fun c => .sql (separator op) :: c.pieces := by
  induction cs with
  | nil => rfl
  | cons c cs ih => simp [furtherPieces, ih]

end Condition

end Sql

namespace Predicate

/-- A storage condition as SQL. -/
def pieces (p : Predicate) : List Sql.Piece := p.condition.pieces

/-- A storage condition alone, as a statement. -/
def statement (p : Predicate) : Sql.Statement := .ofPieces p.pieces

end Predicate

end RunRadar
