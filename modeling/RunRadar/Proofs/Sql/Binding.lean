import RunRadar.Proofs.Sql.Erasure
import RunRadar.Proofs.Sql.Placeholder
import RunRadar.Sql.Query

/-!
# RunRadar.Proofs.Sql.Binding

**Values stay out of the text** of a statement, and its parameters line up with its placeholders.

The text does not depend on literals, since it is the same without them. To say that each
placeholder stands where its literal does, a storage condition is written out with its literals in
place (`Predicate.written`), in whatever way literals are shown: that is what the text becomes when
the parameters are put in for their placeholders. Both are said of a condition alone and of the
statements that it is put into (`Sql.Setting`).
-/

namespace RunRadar

namespace Sql

open Piece (AllClear allClear_nil allClear_cons allClear_append)

/-! ### Pieces of conditions -/

theorem allClear_fieldPieces (field : Field) : AllClear (fieldPieces field) := by
  cases field with
  | metadata key => exact .text (.bind (.text allClear_nil (by decide)) _) (by decide)
  | _ => exact .text allClear_nil (by decide)

theorem allClear_joinedPieces (op : Connective) {xs : List (List Piece)}
    (h : ∀ ps ∈ xs, AllClear ps) : AllClear (joinedPieces op xs) := by
  cases xs with
  | nil => cases op <;> exact .text allClear_nil (by decide)
  | cons first rest =>
    obtain ⟨hfirst, hrest⟩ := List.forall_mem_cons.mp h
    have hseparator : (Piece.sql (separator op)).isClear = true := by
      cases op <;> exact Piece.isClear_ofList (by decide)
    have hfurther : AllClear (rest.flatMap (.sql (separator op) :: ·)) := by
      intro piece hpiece
      obtain ⟨ps, hps, hmem⟩ := List.mem_flatMap.mp hpiece
      exact allClear_cons.mpr ⟨hseparator, hrest ps hps⟩ piece hmem
    exact allClear_append.mpr
      ⟨allClear_append.mpr ⟨.text hfirst (by decide), hfurther⟩, .text allClear_nil (by decide)⟩

theorem allClear_someStringPieces (payload : Payload) (pattern : String) :
    AllClear (someStringPieces payload pattern) := by
  have hcolumn : (Piece.sql (payloadColumn payload)).isClear = true := by
    cases payload <;> exact Piece.isClear_ofList (by decide)
  refine allClear_cons.mpr ⟨?_, .bind (.text allClear_nil (by decide)) _⟩
  refine Piece.isClear_append (Piece.isClear_append (Piece.isClear_append ?_ hcolumn) ?_) ?_
  all_goals exact Piece.isClear_ofList (by decide)

theorem allClear_searchPieces (pattern : String) (field : Field) :
    AllClear (Predicate.searchCondition pattern field).pieces := by
  cases field with
  | input | output => exact allClear_someStringPieces _ pattern
  | _ =>
    exact allClear_append.mpr
      ⟨allClear_fieldPieces _, .text (.bind allClear_nil _) (by decide)⟩

theorem allClear_furtherScalars (values : List Scalar) : AllClear (furtherScalars values) := by
  intro piece hpiece
  obtain ⟨value, -, hmem⟩ := List.mem_flatMap.mp hpiece
  have hpair : AllClear [.sql ", ", .bind (.ofScalar value)] :=
    .text (.bind allClear_nil _) (by decide)
  exact hpair piece hmem

end Sql

namespace Predicate

open Sql Piece

/-- A storage condition is written in pieces that cannot be mistaken for placeholders. -/
theorem allClear_pieces (p : Predicate) : AllClear p.pieces := by
  have hclosing : AllClear [.sql ")"] := .text allClear_nil (by decide)
  induction p using part_induction with
  | always | never => exact .text allClear_nil (by decide)
  | all parts ih =>
    rw [pieces_all]
    exact allClear_joinedPieces .and (List.forall_mem_map.mpr ih)
  | any parts ih =>
    rw [pieces_any]
    exact allClear_joinedPieces .or (List.forall_mem_map.mpr ih)
  | compare field op value =>
    have hop : (Piece.sql (" " ++ op.sql ++ " ")).isClear = true := by
      refine isClear_append (isClear_append (isClear_ofList (by decide)) ?_)
        (isClear_ofList (by decide))
      cases op <;> exact isClear_ofList (by decide)
    have hbehind : AllClear [.sql (" " ++ op.sql ++ " "), .bind (.ofScalar value), .sql ")"] :=
      allClear_cons.mpr ⟨hop, .bind hclosing _⟩
    exact .text (allClear_append.mpr ⟨allClear_fieldPieces field, hbehind⟩) (by decide)
  | isOneOf field values =>
    cases values with
    | nil => exact .text allClear_nil (by decide)
    | cons first rest =>
      have hfield : AllClear (.sql "(" :: fieldPieces field) :=
        .text (allClear_fieldPieces field) (by decide)
      have hlist : AllClear (.sql " IN (" :: .bind (.ofScalar first) :: furtherScalars rest) :=
        .text (.bind (allClear_furtherScalars rest) _) (by decide)
      exact allClear_append.mpr
        ⟨allClear_append.mpr ⟨hfield, hlist⟩, .text allClear_nil (by decide)⟩
  | overlaps field values =>
    have hbehind : AllClear [.sql " && ", .bind (.texts values), .sql ")"] :=
      .text (.bind hclosing _) (by decide)
    exact .text (allClear_append.mpr ⟨allClear_fieldPieces field, hbehind⟩) (by decide)
  | contains fields needle =>
    rw [pieces_contains]
    exact allClear_joinedPieces .or
      (List.forall_mem_map.mpr fun field _ => allClear_searchPieces _ field)

end Predicate

/-! ### Literals in place -/

namespace Sql

variable (render : Parameter → String)

/-- Texts in parentheses with a word between them, or the text that stands for none. -/
def enclosed (word none : String) : List String → String
  | [] => none
  | first :: rest => "(" ++ word.intercalate (first :: rest) ++ ")"

/-- A field, with the key of a metadata value in place. -/
def writtenField : Field → String
  | .kind => "r.type"
  | .name => "r.name"
  | .status => "r.status"
  | .externalUser => "r.external_user_id"
  | .durationMs => "(extract(epoch from (r.ended_at - r.created_at)) * 1000)"
  | .cost => "r.cost"
  | .totalTokens => "(coalesce(r.prompt_tokens, 0) + coalesce(r.completion_tokens, 0))"
  | .tags => "r.tags"
  | .metadata key => "(r.metadata ->> " ++ render (.text key) ++ ")"
  | .input => "r.input::text"
  | .output => "r.output::text"

/-- A search in all strings of a column, with the pattern in place. -/
def writtenStrings (column pattern : String) : String :=
  "EXISTS (SELECT 1 FROM jsonb_path_query(" ++ column ++
    ", 'strict $.**') AS j(item) WHERE jsonb_typeof(j.item) = 'string' AND " ++
    "(j.item #>> '\x7b\x7d') ILIKE " ++ render (.text pattern) ++ ")"

/-- A search in a field, with the pattern in place. -/
def writtenSearch (pattern : String) : Field → String
  | .input => writtenStrings render "r.input" pattern
  | .output => writtenStrings render "r.output" pattern
  | field => writtenField render field ++ " ILIKE " ++ render (.text pattern)

end Sql

namespace Predicate

open Sql

mutual
/-- A storage condition in SQL, with its literals in place. -/
def written (render : Parameter → String) : Predicate → String
  | .always => "true"
  | .never => "false"
  | .all parts => enclosed " AND " "true" (writtenEach render parts)
  | .any parts => enclosed " OR " "false" (writtenEach render parts)
  | .compare field op value =>
    "(" ++ writtenField render field ++ " " ++ op.sql ++ " " ++ render (.ofScalar value) ++ ")"
  | .isOneOf _ [] => "false"
  | .isOneOf field (first :: rest) =>
    "(" ++ writtenField render field ++ " IN (" ++
      ", ".intercalate ((first :: rest).map fun value => render (.ofScalar value)) ++ "))"
  | .overlaps field values =>
    "(" ++ writtenField render field ++ " && " ++ render (.texts values) ++ ")"
  | .contains fields needle =>
    enclosed " OR " "false" (fields.map (writtenSearch render (likePattern needle)))
/-- Storage conditions in SQL, with their literals in place. -/
def writtenEach (render : Parameter → String) : List Predicate → List String
  | [] => []
  | p :: ps => p.written render :: writtenEach render ps
end

@[simp] theorem writtenEach_eq_map (render : Parameter → String) (ps : List Predicate) :
    writtenEach render ps = ps.map (written render) := by
  induction ps with
  | nil => rfl
  | cons p ps ih => rw [writtenEach, ih, List.map_cons]

end Predicate

namespace Sql

namespace Piece

variable (render : Parameter → String)

@[simp] theorem shownAll_nil : shownAll render [] = "" := rfl

@[simp] theorem shownAll_sql (text : String) (rest : List Piece) :
    shownAll render (.sql text :: rest) = text ++ shownAll render rest := String.join_cons

@[simp] theorem shownAll_bind (p : Parameter) (rest : List Piece) :
    shownAll render (.bind p :: rest) = render p ++ shownAll render rest := String.join_cons

@[simp] theorem shownAll_append (ps qs : List Piece) :
    shownAll render (ps ++ qs) = shownAll render ps ++ shownAll render qs := by
  rw [shownAll, List.map_append, String.join_append, shownAll, shownAll]

theorem shownAll_singleton (text : String) : shownAll render [.sql text] = text := by
  rw [shownAll_sql, shownAll_nil, String.append_empty]

theorem shownAll_sql_bind (text : String) (p : Parameter) :
    shownAll render [.sql text, .bind p] = text ++ render p := by
  rw [shownAll_sql, shownAll_bind, shownAll_nil, String.append_empty]

theorem shownAll_sql_bind_sql (text : String) (p : Parameter) (behind : String) :
    shownAll render [.sql text, .bind p, .sql behind] = text ++ render p ++ behind := by
  rw [shownAll_sql, shownAll_bind, shownAll_singleton, String.append_assoc]

/-- A word in front of all pieces but the first ones stands between them. -/
theorem shownAll_append_flatMap (word : String) (first : List Piece) (rest : List (List Piece)) :
    shownAll render first ++ shownAll render (rest.flatMap (.sql word :: ·)) =
      word.intercalate ((first :: rest).map (shownAll render)) := by
  induction rest generalizing first with
  | nil => simp
  | cons next rest ih =>
    rw [List.map_cons, List.map_cons, String.intercalate_cons_cons, ← List.map_cons, ← ih]
    simp [String.append_assoc]

end Piece

open Piece (shownAll)

variable (render : Parameter → String)

theorem shownAll_joinedPieces (op : Connective) (xs : List (List Piece)) :
    shownAll render (joinedPieces op xs) =
      enclosed (separator op) (if op.identity then "true" else "false")
        (xs.map (shownAll render)) := by
  cases xs with
  | nil => cases op <;> simp [joinedPieces, Condition.pieces, Connective.identity, enclosed]
  | cons first rest =>
    rw [List.map_cons, enclosed, ← List.map_cons, ← Piece.shownAll_append_flatMap, joinedPieces]
    simp [String.append_assoc]

theorem shownAll_fieldPieces (field : Field) :
    shownAll render (fieldPieces field) = writtenField render field := by
  cases field with
  | metadata key => exact Piece.shownAll_sql_bind_sql render _ _ _
  | _ => exact Piece.shownAll_singleton render _

theorem shownAll_searchPieces (pattern : String) (field : Field) :
    shownAll render (Predicate.searchCondition pattern field).pieces =
      writtenSearch render pattern field := by
  cases field with
  | input | output => exact Piece.shownAll_sql_bind_sql render _ _ _
  | _ =>
    show shownAll render (fieldPieces _ ++ [.sql " ILIKE ", .bind (.text pattern)]) = _
    rw [Piece.shownAll_append, shownAll_fieldPieces, Piece.shownAll_sql_bind, ← String.append_assoc]
    rfl

theorem shownAll_scalars (first : Scalar) (rest : List Scalar) :
    shownAll render (.bind (.ofScalar first) :: furtherScalars rest) =
      ", ".intercalate ((first :: rest).map fun value => render (.ofScalar value)) := by
  have h := Piece.shownAll_append_flatMap render ", " [.bind (.ofScalar first)]
    (rest.map fun value => [.bind (.ofScalar value)])
  rw [List.flatMap_map, ← Piece.shownAll_append] at h
  simpa [furtherScalars, Function.comp_def] using h

end Sql

namespace Predicate

open Sql Piece

/-- With their parameters in place, the pieces of a storage condition are the condition with its
literals in place. -/
theorem shownAll_pieces (render : Parameter → String) (p : Predicate) :
    shownAll render p.pieces = p.written render := by
  induction p using part_induction with
  | always => simp [pieces, condition, Condition.pieces, written]
  | never => simp [pieces, condition, Condition.pieces, written]
  | all parts ih =>
    have hparts : parts.map (shownAll render ∘ pieces) = parts.map (written render) :=
      List.map_congr_left ih
    rw [pieces_all, shownAll_joinedPieces, List.map_map, hparts, written, writtenEach_eq_map]
    simp only [separator, Connective.identity, if_true]
  | any parts ih =>
    have hparts : parts.map (shownAll render ∘ pieces) = parts.map (written render) :=
      List.map_congr_left ih
    rw [pieces_any, shownAll_joinedPieces, List.map_map, hparts, written, writtenEach_eq_map]
    simp only [separator, Connective.identity, Bool.false_eq_true, if_false]
  | compare field op value =>
    simp [pieces, condition, Condition.pieces, written, shownAll_fieldPieces, String.append_assoc]
  | isOneOf field values =>
    cases values with
    | nil => simp [pieces, condition, Condition.pieces, written]
    | cons first rest =>
      rw [written, ← shownAll_scalars]
      simp [pieces, condition, Condition.pieces, shownAll_fieldPieces, String.append_assoc]
  | overlaps field values =>
    simp [pieces, condition, Condition.pieces, written, shownAll_fieldPieces, String.append_assoc]
  | contains fields needle =>
    have hfields : fields.map (shownAll render ∘ fun field =>
        (searchCondition (likePattern needle) field).pieces) =
          fields.map (writtenSearch render (likePattern needle)) :=
      List.map_congr_left fun field _ => shownAll_searchPieces render _ field
    rw [pieces_contains, shownAll_joinedPieces, List.map_map, hfields, written]
    simp only [separator, Connective.identity, Bool.false_eq_true, if_false]

end Predicate

/-! ### Statements around a condition -/

namespace Sql

/-- What a storage condition is put into. -/
inductive Setting
  | alone
  | unscoredRuns (project radar : Uuid) (limit : Nat)
  | runMatches (run : Uuid)
  | matchingIds (ids : List Uuid)

namespace Setting

/-- The statement with a condition. -/
def statement : Setting → Predicate → Statement
  | .alone, p => p.statement
  | .unscoredRuns project radar limit, p => Sql.unscoredRuns project radar p limit
  | .runMatches run, p => Sql.runMatches run p
  | .matchingIds ids, p => Sql.matchingIds ids p

/-- The setting without its values. -/
def erased : Setting → Setting
  | .alone => .alone
  | .unscoredRuns _ _ _ => .unscoredRuns .nil .nil 0
  | .runMatches _ => .runMatches .nil
  | .matchingIds _ => .matchingIds []

/-- The statement with its values, and the literals of a condition, in place. -/
def written (render : Parameter → String) : Setting → Predicate → String
  | .alone, p => p.written render
  | .unscoredRuns project radar limit, p =>
    "SELECT " ++ runColumns ++ " FROM run r WHERE r.project_id = " ++ render (.uuid project) ++
      " AND " ++ p.written render ++
      " AND NOT EXISTS (SELECT 1 FROM radar_result rr WHERE rr.radar_id = " ++
      render (.uuid radar) ++ " AND rr.run_id = r.id) ORDER BY r.created_at ASC LIMIT " ++
      render (.integer limit)
  | .runMatches run, p =>
    "SELECT EXISTS (SELECT 1 FROM run r WHERE r.id = " ++ render (.uuid run) ++ " AND " ++
      p.written render ++ ")"
  | .matchingIds ids, p =>
    "SELECT r.id FROM run r WHERE r.id = ANY(" ++ render (.uuids ids) ++ ") AND " ++
      p.written render

/-- The pieces in front of the condition. -/
def front : Setting → List Piece
  | .alone => []
  | .unscoredRuns project _ _ =>
    [.sql ("SELECT " ++ runColumns ++ " FROM run r WHERE r.project_id = "),
     .bind (.uuid project), .sql " AND "]
  | .runMatches run =>
    [.sql "SELECT EXISTS (SELECT 1 FROM run r WHERE r.id = ", .bind (.uuid run), .sql " AND "]
  | .matchingIds ids =>
    [.sql "SELECT r.id FROM run r WHERE r.id = ANY(", .bind (.uuids ids), .sql ") AND "]

/-- The pieces behind the condition. -/
def back : Setting → List Piece
  | .alone => []
  | .unscoredRuns _ radar limit =>
    [.sql " AND NOT EXISTS (SELECT 1 FROM radar_result rr WHERE rr.radar_id = ",
     .bind (.uuid radar),
     .sql " AND rr.run_id = r.id) ORDER BY r.created_at ASC LIMIT ",
     .bind (.integer limit)]
  | .runMatches _ => [.sql ")"]
  | .matchingIds _ => []

variable (s : Setting) (p : Predicate)

theorem statement_eq_ofPieces : s.statement p = .ofPieces (s.front ++ p.pieces ++ s.back) := by
  cases s <;> simp [statement, front, back, Predicate.statement, Sql.unscoredRuns, Sql.runMatches,
    Sql.matchingIds]

/-- Erasing the values of a setting changes the parameters of its pieces only. -/
theorem map_blank_front_erased : s.erased.front.map Piece.blank = s.front.map Piece.blank := by
  cases s <;> rfl

theorem map_blank_back_erased : s.erased.back.map Piece.blank = s.back.map Piece.blank := by
  cases s <;> rfl

theorem allClear_front : Piece.AllClear s.front := by
  cases s with
  | alone => exact Piece.allClear_nil
  | unscoredRuns project radar limit =>
    have hcolumns : (Piece.sql runColumns).isClear = true :=
      Piece.isClear_append (Piece.isClear_ofList (by decide)) (Piece.isClear_ofList (by decide))
    refine Piece.allClear_cons.mpr ⟨?_, .bind (.text Piece.allClear_nil (by decide)) _⟩
    refine Piece.isClear_append (Piece.isClear_append ?_ hcolumns) ?_
    all_goals exact Piece.isClear_ofList (by decide)
  | _ => exact .text (.bind (.text Piece.allClear_nil (by decide)) _) (by decide)

theorem allClear_back : Piece.AllClear s.back := by
  cases s with
  | unscoredRuns project radar limit =>
    have hlimit : Piece.AllClear
        [.sql " AND rr.run_id = r.id) ORDER BY r.created_at ASC LIMIT ", .bind (.integer limit)] :=
      .text (.bind Piece.allClear_nil _) (by decide)
    exact .text (.bind hlimit _) (by decide)
  | runMatches run => exact .text Piece.allClear_nil (by decide)
  | _ => exact Piece.allClear_nil

theorem allClear : Piece.AllClear (s.front ++ p.pieces ++ s.back) :=
  Piece.allClear_append.mpr
    ⟨Piece.allClear_append.mpr ⟨s.allClear_front, p.allClear_pieces⟩, s.allClear_back⟩

theorem shownAll_around (render : Parameter → String) :
    Piece.shownAll render s.front ++ p.written render ++ Piece.shownAll render s.back =
      s.written render p := by
  cases s with
  | alone => exact (String.append_empty ..).trans (String.empty_append ..)
  | unscoredRuns project radar limit =>
    rw [back, Piece.shownAll_sql, Piece.shownAll_bind, Piece.shownAll_sql_bind, front,
      Piece.shownAll_sql_bind_sql]
    simp only [← String.append_assoc]
    rfl
  | runMatches run => rw [front, back, Piece.shownAll_sql_bind_sql, Piece.shownAll_singleton]; rfl
  | matchingIds ids =>
    rw [front, back, Piece.shownAll_sql_bind_sql]
    exact String.append_empty ..

/-- Values and literals stay out of the text of a statement: what differs in nothing else is the
same text. Its placeholders are numbered from one on in the order in which they stand, one for each
parameter, and with the parameters in their places the text is the condition with its literals in
place. -/
theorem statement_binds_literals :
    (∀ (t : Setting) (q : Predicate), s.erased = t.erased → p.erased = q.erased →
        (s.statement p).sql = (t.statement q).sql) ∧
      (s.statement p).placeholders = List.range' 1 (s.statement p).parameters.length ∧
      ∀ render, (s.statement p).filled render = s.written render p := by
  refine ⟨fun t q hs hp => ?_, ?_, fun render => ?_⟩
  · have hpieces := Predicate.map_blank_pieces_congr hp
    rw [statement_eq_ofPieces, statement_eq_ofPieces]
    refine Piece.sql_ofPieces_congr ?_
    rw [List.map_append, List.map_append, List.map_append, List.map_append, hpieces,
      ← s.map_blank_front_erased, ← s.map_blank_back_erased, hs, map_blank_front_erased,
      map_blank_back_erased]
  · rw [statement_eq_ofPieces]
    exact Statement.placeholders_ofPieces (s.allClear p)
  · rw [statement_eq_ofPieces, Statement.filled_ofPieces (s.allClear p)]
    rw [Piece.shownAll_append, Piece.shownAll_append, p.shownAll_pieces]
    exact s.shownAll_around p render

/-- The runs to score for two radars whose views differ in their literals alone are asked for with
one text, whose ten placeholders are numbered in order. -/
theorem statement_binds_literals_unscoredRuns :
    let view key word needle tags number := Predicate.all
      [.compare (.metadata key) .eq (.text word), .isOneOf .status [.text word, number],
        .any [.overlaps .tags tags, .contains [.name, .input] needle]]
    let p := view "region" "eu" "timeout" ["slow", "new"] (.text "error")
    let q := view "$1" "'; DROP TABLE run; --" "100%" [] (.integer (-3))
    (unscoredRuns .nil .nil 50).erased = (unscoredRuns ⟨7⟩ ⟨8⟩ 1).erased ∧ p.erased = q.erased ∧
      (Sql.unscoredRuns .nil .nil p 50).sql = (Sql.unscoredRuns ⟨7⟩ ⟨8⟩ q 1).sql ∧
      (Sql.unscoredRuns ⟨7⟩ ⟨8⟩ q 1).placeholders = [1, 2, 3, 4, 5, 6, 7, 8, 9, 10] := by
  intro view p q
  obtain ⟨hsql, -, -⟩ := statement_binds_literals (unscoredRuns .nil .nil 50) p
  obtain ⟨-, hplaceholders, -⟩ := statement_binds_literals (unscoredRuns ⟨7⟩ ⟨8⟩ 1) q
  exact ⟨rfl, rfl, hsql (unscoredRuns ⟨7⟩ ⟨8⟩ 1) q rfl rfl, hplaceholders⟩

end Setting

end Sql

end RunRadar
