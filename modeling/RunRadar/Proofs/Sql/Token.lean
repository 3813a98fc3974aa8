import RunRadar.Sql.Condition

/-!
# RunRadar.Proofs.Sql.Token

The **tokens** of conditions in SQL. The pieces of a statement are cut for writing, and no two
ways of cutting can be told apart in the text. Tokens are cut for reading: there are finitely many
symbols, none of their texts begins another one, and none looks like a placeholder. So the text
and the parameters of a statement give back its tokens (`Condition.tokens_eq_of_ofPieces_eq`).
-/

namespace RunRadar.Sql

/-! ### Symbols -/

/-- The SQL that conditions are written with, cut so that no symbol begins another one. The
parentheses around a field that is computed are symbols of their own. -/
inductive Symbol
  | opening
  | closing
  | constant (value : Bool)
  | separator (op : Connective)
  | comma
  | kind
  | name
  | status
  | externalUser
  | duration
  | cost
  | totalTokens
  | tags
  | metadata
  | input
  | output
  | operator (op : Operator)
  | amongst
  | overlapping
  | alike
  | search
  | strings (payload : Payload)
  | typed
  | item
deriving DecidableEq

namespace Symbol

/-- The text of a symbol. -/
def text : Symbol → String
  | .opening => "("
  | .closing => ")"
  | .constant true => "true"
  | .constant false => "false"
  | .separator op => Sql.separator op
  | .comma => ", "
  | .kind => "r.type"
  | .name => "r.name"
  | .status => "r.status"
  | .externalUser => "r.external_user_id"
  | .duration => "extract(epoch from (r.ended_at - r.created_at)) * 1000"
  | .cost => "r.cost"
  | .totalTokens => "coalesce(r.prompt_tokens, 0) + coalesce(r.completion_tokens, 0)"
  | .tags => "r.tags"
  | .metadata => "r.metadata ->> "
  | .input => "r.input::text"
  | .output => "r.output::text"
  | .operator op => " " ++ op.sql ++ " "
  | .amongst => " IN ("
  | .overlapping => " && "
  | .alike => " ILIKE "
  | .search => "EXISTS (SELECT 1 FROM jsonb_path_query("
  | .strings payload => payloadColumn payload ++ ", 'strict $.**') AS j(item) "
  | .typed => "WHERE jsonb_typeof(j.item) = 'string' AND ("
  | .item => "j.item #>> '\x7b\x7d') ILIKE "

/-- All symbols. -/
def all : List Symbol :=
  [.opening, .closing, .constant true, .constant false, .separator .and, .separator .or, .comma,
   .kind, .name, .status, .externalUser, .duration, .cost, .totalTokens, .tags, .metadata, .input,
   .output, .operator .eq, .operator .neq, .operator .gt, .operator .gte, .operator .lt,
   .operator .lte, .amongst, .overlapping, .alike, .search, .strings .input,
   .strings .output, .typed, .item]

theorem mem_all (a : Symbol) : a ∈ all := by
  cases a with
  | constant value => cases value <;> decide
  | separator op => cases op <;> decide
  | operator op => cases op <;> decide
  | strings payload => cases payload <;> decide
  | _ => decide

/-- No text of a symbol is empty, begins as placeholders do, or begins the text of another one. -/
theorem texts_apart : ∀ a ∈ all, (a.text.toList.head?.any (· ≠ '$')) = true ∧
    ∀ b ∈ all, a.text.toList.isPrefixOf b.text.toList = true → a = b := by
  decide +kernel

theorem eq_of_prefix_text {a b : Symbol} (h : a.text.toList <+: b.text.toList) : a = b :=
  (texts_apart a (mem_all a)).2 b (mem_all b) (List.isPrefixOf_iff_prefix.mpr h)

theorem head_text (a : Symbol) : ∃ c cs, a.text.toList = c :: cs ∧ c ≠ '$' := by
  obtain ⟨c, hc, hne⟩ := Option.any_eq_true .. |>.mp (texts_apart a (mem_all a)).1
  obtain ⟨cs, hcs⟩ := List.head?_eq_some_iff.mp hc
  exact ⟨c, cs, hcs, by simpa using hne⟩

/-- Texts that begin with a symbol each begin with the same one. -/
theorem text_append_inj {a b : Symbol} {s t : List Char}
    (h : a.text.toList ++ s = b.text.toList ++ t) : a = b ∧ s = t := by
  have hab : a = b := by
    rcases List.append_eq_append_iff.mp h with ⟨u, hb, -⟩ | ⟨u, ha, -⟩
    · exact eq_of_prefix_text ⟨u, hb.symm⟩
    · exact (eq_of_prefix_text ⟨u, ha.symm⟩).symm
  subst hab
  exact ⟨rfl, List.append_cancel_left h⟩

end Symbol

/-! ### Tokens -/

/-- A symbol, or a parameter. -/
inductive Token
  | symbol (a : Symbol)
  | bind (parameter : Parameter)

namespace Token

/-- A token as a piece of a statement. -/
def piece : Token → Piece
  | .symbol a => .sql a.text
  | .bind p => .bind p

end Token

/-- Pieces that make the same statement: they read the same, wherever the numbers of their
placeholders start, and have the same parameters. -/
structure SameStatement (ps qs : List Piece) : Prop where
  texts : ∀ next, (Piece.texts next ps).flatMap String.toList =
    (Piece.texts next qs).flatMap String.toList
  parameters : ps.filterMap Piece.parameter? = qs.filterMap Piece.parameter?

namespace SameStatement

variable {ps qs ps' qs' : List Piece}

@[refl] protected theorem refl (ps : List Piece) : SameStatement ps ps := ⟨fun _ => rfl, rfl⟩

protected theorem append (h : SameStatement ps qs) (h' : SameStatement ps' qs') :
    SameStatement (ps ++ ps') (qs ++ qs') where
  texts next := by
    rw [Piece.texts_append, Piece.texts_append, List.flatMap_append, List.flatMap_append,
      h.texts, h.parameters, h'.texts]
  parameters := by rw [List.filterMap_append, List.filterMap_append, h.parameters, h'.parameters]

protected theorem cons (p : Piece) (h : SameStatement ps qs) :
    SameStatement (p :: ps) (p :: qs) :=
  (SameStatement.refl [p]).append h

/-- Text may be cut anywhere. -/
theorem cut {text : String} (parts : List String)
    (h : text.toList = parts.flatMap String.toList) :
    SameStatement [.sql text] (parts.map .sql) where
  texts next := by
    have hparts : Piece.texts next (parts.map .sql) = parts := by
      clear h
      induction parts with
      | nil => rfl
      | cons part parts ih => rw [List.map_cons, Piece.texts_sql, ih]
    rw [hparts, Piece.texts_sql, Piece.texts_nil, List.flatMap_singleton, h]
  parameters := by
    rw [List.filterMap_map]
    exact (List.filterMap_eq_nil_iff.mpr fun _ _ => rfl).symm

end SameStatement

namespace Token

/-- How tokens read when `next` is the number of the next placeholder. -/
def reading (next : Nat) (ts : List Token) : List Char :=
  (Piece.texts next (ts.map piece)).flatMap String.toList

@[simp] theorem reading_nil (next : Nat) : reading next [] = [] := rfl

@[simp] theorem reading_symbol (next : Nat) (a : Symbol) (ts : List Token) :
    reading next (.symbol a :: ts) = a.text.toList ++ reading next ts := by
  simp [reading, piece]

@[simp] theorem reading_bind (next : Nat) (p : Parameter) (ts : List Token) :
    reading next (.bind p :: ts) = '$' :: (toString next).toList ++ reading (next + 1) ts := by
  simp [reading, piece, Piece.placeholder]

theorem reading_cons_ne_nil (next : Nat) (t : Token) (ts : List Token) :
    reading next (t :: ts) ≠ [] := by
  cases t with
  | symbol a =>
    obtain ⟨c, cs, hc, -⟩ := a.head_text
    simp [hc]
  | bind p => simp

/-- A symbol does not read as a parameter. -/
theorem reading_symbol_ne_bind (next : Nat) (a : Symbol) (p : Parameter) (ts us : List Token) :
    reading next (.symbol a :: ts) ≠ reading next (.bind p :: us) := by
  obtain ⟨c, cs, hc, hne⟩ := a.head_text
  simp [hc, hne]

/-- The parameters among tokens. -/
def parameters (ts : List Token) : List Parameter := (ts.map piece).filterMap Piece.parameter?

@[simp] theorem parameters_symbol (a : Symbol) (ts : List Token) :
    parameters (.symbol a :: ts) = parameters ts := rfl

@[simp] theorem parameters_bind (p : Parameter) (ts : List Token) :
    parameters (.bind p :: ts) = p :: parameters ts := rfl

/-- How tokens read, and the parameters among them, determine the tokens. -/
theorem eq_of_reading (next : Nat) {ts us : List Token}
    (hreading : reading next ts = reading next us)
    (hparameters : parameters ts = parameters us) : ts = us := by
  induction ts generalizing next us with
  | nil =>
    cases us with
    | nil => rfl
    | cons u us => exact absurd hreading.symm (reading_cons_ne_nil next u us)
  | cons t ts ih =>
    match t, us with
    | t, [] => exact absurd hreading (reading_cons_ne_nil next t ts)
    | .symbol a, .symbol b :: us =>
      rw [reading_symbol, reading_symbol] at hreading
      obtain ⟨rfl, hrest⟩ := Symbol.text_append_inj hreading
      rw [ih next hrest hparameters]
    | .symbol a, .bind q :: us => exact absurd hreading (reading_symbol_ne_bind next a q ts us)
    | .bind p, .symbol b :: us =>
      exact absurd hreading.symm (reading_symbol_ne_bind next b p us ts)
    | .bind p, .bind q :: us =>
      -- the placeholders have the same number, so they read the same
      rw [reading_bind, reading_bind] at hreading
      rw [parameters_bind, parameters_bind, List.cons.injEq] at hparameters
      rw [ih (next + 1) (List.append_cancel_left hreading) hparameters.2, hparameters.1]

end Token

/-! ### Tokens of conditions -/

/-- The tokens of a field. -/
def fieldTokens : Field → List Token
  | .kind => [.symbol .kind]
  | .name => [.symbol .name]
  | .status => [.symbol .status]
  | .externalUser => [.symbol .externalUser]
  | .durationMs => [.symbol .opening, .symbol .duration, .symbol .closing]
  | .cost => [.symbol .cost]
  | .totalTokens => [.symbol .opening, .symbol .totalTokens, .symbol .closing]
  | .tags => [.symbol .tags]
  | .metadata key =>
    [.symbol .opening, .symbol .metadata, .bind (.text key), .symbol .closing]
  | .input => [.symbol .input]
  | .output => [.symbol .output]

/-- The tokens of scalars behind the first one of a list. -/
def scalarTokens (scalars : List Scalar) : List Token :=
  scalars.flatMap fun value => [.symbol .comma, .bind (.ofScalar value)]

namespace Condition

mutual
/-- The tokens of a condition. -/
def tokens : Condition → List Token
  | .constant value => [.symbol (.constant value)]
  | .join op first rest =>
    .symbol .opening :: first.tokens ++ furtherTokens op rest ++ [.symbol .closing]
  | .compare field op value =>
    .symbol .opening :: fieldTokens field ++
      [.symbol (.operator op), .bind (.ofScalar value), .symbol .closing]
  | .isOneOf field first rest =>
    .symbol .opening :: fieldTokens field ++ .symbol .amongst :: .bind (.ofScalar first) ::
      scalarTokens rest ++ [.symbol .closing, .symbol .closing]
  | .overlaps field values =>
    .symbol .opening :: fieldTokens field ++
      [.symbol .overlapping, .bind (.texts values), .symbol .closing]
  | .like field pattern => fieldTokens field ++ [.symbol .alike, .bind (.text pattern)]
  | .someStringLike payload pattern =>
    [.symbol .search, .symbol (.strings payload), .symbol .typed, .symbol .item,
     .bind (.text pattern), .symbol .closing]
/-- The tokens of conditions behind the first one of a junction. -/
def furtherTokens (op : Connective) : List Condition → List Token
  | [] => []
  | c :: cs => .symbol (.separator op) :: c.tokens ++ furtherTokens op cs
end

end Condition

open Token (piece)

theorem sameStatement_fieldTokens (field : Field) :
    SameStatement (fieldPieces field) ((fieldTokens field).map piece) := by
  cases field with
  | durationMs =>
    exact SameStatement.cut [_, _, _] (by simp [Symbol.text])
  | totalTokens => exact SameStatement.cut [_, _, _] (by simp [Symbol.text])
  | metadata key =>
    exact (SameStatement.cut [_, _] (by simp [Symbol.text])).append (.refl _)
  | _ => exact .refl _

theorem sameStatement_scalarTokens (scalars : List Scalar) :
    SameStatement (furtherScalars scalars) ((scalarTokens scalars).map piece) := by
  rw [furtherScalars, scalarTokens, List.map_flatMap]
  exact .refl _

namespace Condition

mutual
/-- The tokens of a condition make the statement that its pieces make. -/
theorem sameStatement_tokens : ∀ c : Condition, SameStatement c.pieces (c.tokens.map piece)
  | .constant true => .refl _
  | .constant false => .refl _
  | .join op first rest => by
    simp only [pieces, tokens, List.map_cons, List.map_append]
    exact (((sameStatement_tokens first).cons _).append
      (sameStatement_furtherTokens op rest)).append (.refl _)
  | .compare field op value => by
    simp only [pieces, tokens, List.map_cons, List.map_append]
    exact ((sameStatement_fieldTokens field).cons _).append (.refl _)
  | .isOneOf field first rest => by
    simp only [pieces, tokens, List.map_cons, List.map_append]
    exact (((sameStatement_fieldTokens field).cons _).append
      (((sameStatement_scalarTokens rest).cons _).cons _)).append
      (SameStatement.cut [_, _] (by simp [Symbol.text]))
  | .overlaps field values => by
    simp only [pieces, tokens, List.map_cons, List.map_append]
    exact ((sameStatement_fieldTokens field).cons _).append (.refl _)
  | .like field pattern => by
    simp only [pieces, tokens, List.map_append]
    exact (sameStatement_fieldTokens field).append (.refl _)
  | .someStringLike payload pattern =>
    (SameStatement.cut [_, _, _, _] (by cases payload <;> simp [Symbol.text])).append (.refl _)
theorem sameStatement_furtherTokens (op : Connective) : ∀ cs : List Condition,
    SameStatement (furtherPieces op cs) ((furtherTokens op cs).map piece)
  | [] => .refl _
  | c :: cs => by
    simp only [furtherPieces, furtherTokens, List.map_cons, List.map_append]
    exact ((sameStatement_tokens c).cons _).append (sameStatement_furtherTokens op cs)
end

/-- The statement of a condition determines its tokens. -/
theorem tokens_eq_of_ofPieces_eq {c d : Condition}
    (h : Statement.ofPieces c.pieces = Statement.ofPieces d.pieces) : c.tokens = d.tokens := by
  obtain ⟨htext, hparameters⟩ := Statement.mk.injEq .. |>.mp h
  have hc := c.sameStatement_tokens
  have hd := d.sameStatement_tokens
  refine Token.eq_of_reading 1 ?_ ?_
  · calc Token.reading 1 c.tokens
        = (Piece.texts 1 c.pieces).flatMap String.toList := (hc.texts 1).symm
      _ = (Piece.texts 1 d.pieces).flatMap String.toList := by
        rw [← String.toList_join, htext, String.toList_join]
      _ = Token.reading 1 d.tokens := hd.texts 1
  · exact hc.parameters.symm.trans (hparameters.trans hd.parameters)

end Condition

end RunRadar.Sql
