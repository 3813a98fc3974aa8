import RunRadar.Sql.Condition

/-!
# RunRadar.Proofs.Sql.Erasure

**Literals are erased** from storage conditions, and the SQL of a condition stays as it is but for
its parameters. So conditions that differ in nothing but literals are written with the same text
(`Predicate.map_blank_pieces_congr`).

What is erased are the values in comparisons and lists, with their types, the keys of metadata,
needles, and lists to overlap with. What remains are the operators, the fields, the lengths of lists
of values, and how conditions are nested.
-/

namespace RunRadar

namespace Sql

/-! ### Junctions -/

/-- Conditions as SQL, joined. -/
def joinedPieces (op : Connective) : List (List Piece) → List Piece
  | [] => (Condition.constant op.identity).pieces
  | first :: rest => .sql "(" :: first ++ rest.flatMap (.sql (separator op) :: ·) ++ [.sql ")"]

theorem Condition.pieces_joined (op : Connective) (cs : List Condition) :
    (joined op cs).pieces = joinedPieces op (cs.map pieces) := by
  cases cs with
  | nil => rfl
  | cons first rest =>
    rw [joined, pieces, furtherPieces_eq_flatMap, List.map_cons, joinedPieces, List.flatMap_map]

end Sql

namespace Predicate

open Sql (Condition Piece joinedPieces likePattern)

@[simp] theorem pieces_all (parts : List Predicate) :
    (all parts).pieces = joinedPieces .and (parts.map pieces) := by
  rw [pieces, condition, conditions_eq_map, Condition.pieces_joined, List.map_map]
  rfl

@[simp] theorem pieces_any (parts : List Predicate) :
    (any parts).pieces = joinedPieces .or (parts.map pieces) := by
  rw [pieces, condition, conditions_eq_map, Condition.pieces_joined, List.map_map]
  rfl

@[simp] theorem pieces_contains (fields : List Field) (needle : String) :
    (contains fields needle).pieces =
      joinedPieces .or
        (fields.map fun field => (searchCondition (likePattern needle) field).pieces) := by
  rw [pieces, condition, Condition.pieces_joined, List.map_map]
  rfl

mutual
/-- What holds of a junction whenever it holds of its parts holds of every storage condition. -/
@[elab_as_elim] theorem part_induction {motive : Predicate → Prop}
    (always : motive .always) (never : motive .never)
    (all : ∀ parts, (∀ p ∈ parts, motive p) → motive (.all parts))
    (any : ∀ parts, (∀ p ∈ parts, motive p) → motive (.any parts))
    (compare : ∀ field op value, motive (.compare field op value))
    (isOneOf : ∀ field values, motive (.isOneOf field values))
    (overlaps : ∀ field values, motive (.overlaps field values))
    (contains : ∀ fields needle, motive (.contains fields needle)) : ∀ p : Predicate, motive p
  | .always => always
  | .never => never
  | .all parts =>
    all parts (parts_induction always never all any compare isOneOf overlaps contains parts)
  | .any parts =>
    any parts (parts_induction always never all any compare isOneOf overlaps contains parts)
  | .compare field op value => compare field op value
  | .isOneOf field values => isOneOf field values
  | .overlaps field values => overlaps field values
  | .contains fields needle => contains fields needle
theorem parts_induction {motive : Predicate → Prop}
    (always : motive .always) (never : motive .never)
    (all : ∀ parts, (∀ p ∈ parts, motive p) → motive (.all parts))
    (any : ∀ parts, (∀ p ∈ parts, motive p) → motive (.any parts))
    (compare : ∀ field op value, motive (.compare field op value))
    (isOneOf : ∀ field values, motive (.isOneOf field values))
    (overlaps : ∀ field values, motive (.overlaps field values))
    (contains : ∀ fields needle, motive (.contains fields needle)) :
    ∀ parts : List Predicate, ∀ p ∈ parts, motive p
  | [], _, hp => absurd hp List.not_mem_nil
  | part :: parts, p, hp => by
    rcases List.mem_cons.mp hp with h | h
    · exact h ▸ part_induction always never all any compare isOneOf overlaps contains part
    · exact parts_induction always never all any compare isOneOf overlaps contains parts p h
end

end Predicate

/-! ### Erasing literals -/

/-- A field without the key of a metadata value. -/
def Field.erased : Field → Field
  | .metadata _ => .metadata ""
  | field => field

namespace Predicate

mutual
/-- A storage condition without its literals. Of a list of values, the length remains. -/
def erased : Predicate → Predicate
  | .always => .always
  | .never => .never
  | .all parts => .all (erasedEach parts)
  | .any parts => .any (erasedEach parts)
  | .compare field op _ => .compare field.erased op (.text "")
  | .isOneOf field values => .isOneOf field.erased (values.map fun _ => .text "")
  | .overlaps field _ => .overlaps field.erased []
  | .contains fields _ => .contains (fields.map Field.erased) ""
/-- Storage conditions without their literals. -/
def erasedEach : List Predicate → List Predicate
  | [] => []
  | p :: ps => p.erased :: erasedEach ps
end

@[simp] theorem erasedEach_eq_map (ps : List Predicate) : erasedEach ps = ps.map erased := by
  induction ps with
  | nil => rfl
  | cons p ps ih => rw [erasedEach, ih, List.map_cons]

end Predicate

namespace Sql

namespace Piece

/-- A piece without its parameter. -/
def blank : Piece → Piece
  | .sql text => .sql text
  | .bind _ => .bind .null

/-- Texts do not depend on parameters. -/
theorem texts_map_blank (next : Nat) (pieces : List Piece) :
    texts next (pieces.map blank) = texts next pieces := by
  induction pieces generalizing next with
  | nil => rfl
  | cons piece rest ih => cases piece <;> simp [blank, ih]

/-- Pieces that differ in their parameters only have the same text. -/
theorem sql_ofPieces_congr {ps qs : List Piece} (h : ps.map blank = qs.map blank) :
    (Statement.ofPieces ps).sql = (Statement.ofPieces qs).sql := by
  simp only [Statement.ofPieces]
  rw [← texts_map_blank 1 ps, h, texts_map_blank]

end Piece

open Piece (blank)

@[simp] theorem map_blank_joinedPieces (op : Connective) (xs : List (List Piece)) :
    (joinedPieces op xs).map blank = joinedPieces op (xs.map (List.map blank)) := by
  cases xs with
  | nil => cases op <;> rfl
  | cons first rest => simp [joinedPieces, blank, List.map_flatMap, List.flatMap_map]

@[simp] theorem map_blank_fieldPieces (field : Field) :
    (fieldPieces field.erased).map blank = (fieldPieces field).map blank := by
  cases field <;> rfl

theorem map_blank_searchPieces (pattern pattern' : String) (field : Field) :
    (Predicate.searchCondition pattern' field.erased).pieces.map blank =
      (Predicate.searchCondition pattern field).pieces.map blank := by
  cases field <;> rfl

theorem map_blank_furtherScalars (values : List Scalar) :
    (furtherScalars (values.map fun _ => .text "")).map blank =
      (furtherScalars values).map blank := by
  simp only [furtherScalars, List.flatMap_map, List.map_flatMap]
  rfl

end Sql

namespace Predicate

open Sql

/-- Erasing literals changes the parameters of the pieces only. -/
theorem map_blank_pieces_erased (p : Predicate) :
    p.erased.pieces.map Piece.blank = p.pieces.map Piece.blank := by
  induction p using part_induction with
  | always => rfl
  | never => rfl
  | all parts ih | any parts ih =>
    simp only [erased, erasedEach_eq_map, pieces_all, pieces_any, map_blank_joinedPieces,
      List.map_map]
    exact congrArg _ (List.map_congr_left ih)
  | compare field op value =>
    simp only [erased, pieces, condition, Condition.pieces, List.map_cons, List.map_append,
      map_blank_fieldPieces]
    rfl
  | isOneOf field values =>
    cases values with
    | nil => rfl
    | cons first rest =>
      simp only [erased, pieces, condition, Condition.pieces, List.map_cons, List.map_append,
        map_blank_fieldPieces, map_blank_furtherScalars]
      rfl
  | overlaps field values =>
    simp only [erased, pieces, condition, Condition.pieces, List.map_cons, List.map_append,
      map_blank_fieldPieces]
    rfl
  | contains fields needle =>
    simp only [erased, pieces_contains, map_blank_joinedPieces, List.map_map]
    exact congrArg _ (List.map_congr_left fun field _ => map_blank_searchPieces _ _ field)

/-- Conditions that differ in nothing but literals differ in nothing but parameters. -/
theorem map_blank_pieces_congr {p q : Predicate} (h : p.erased = q.erased) :
    p.pieces.map Piece.blank = q.pieces.map Piece.blank := by
  rw [← map_blank_pieces_erased, h, map_blank_pieces_erased]

end Predicate

end RunRadar
