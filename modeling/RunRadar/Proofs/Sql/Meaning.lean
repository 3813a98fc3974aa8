import RunRadar.Predicate.Match
import RunRadar.Proofs.Sql.Token
import RunRadar.Proofs.Tree.Value

/-!
# RunRadar.Proofs.Sql.Meaning

The SQL of a storage condition **loses no meaning**: conditions that are written as the same
statement hold of the same runs.

Different conditions can have one statement. A conjunction of one part is written as a
disjunction of it, an empty list as a constant, a search as a disjunction. What they share is
their meaning as conditions in SQL, which is given here (`Sql.Condition.holds`). Conditions in SQL
that have the same tokens have the same meaning, and so they do with anything behind them, which is
what the induction needs (`Sql.Condition.holds_eq_of_tokens_append`).
-/

namespace RunRadar

namespace Sql

/-! ### Needles of patterns -/

/-- The characters that a pattern without wildcards stands for. -/
def unescapeLike : List Char → List Char
  | '\\' :: c :: cs => c :: unescapeLike cs
  | c :: cs => c :: unescapeLike cs
  | [] => []

theorem unescapeLike_cons_of_ne {c : Char} (h : c ≠ '\\') (cs : List Char) :
    unescapeLike (c :: cs) = c :: unescapeLike cs := by
  cases cs with
  | nil => simp [unescapeLike]
  | cons d cs => rw [unescapeLike]; rintro _ _ rfl; exact absurd rfl h

theorem unescapeLike_escapeLike (c : Char) (cs : List Char) :
    unescapeLike (escapeLike c ++ cs) = c :: unescapeLike cs := by
  by_cases h : c = '\\' ∨ c = '%' ∨ c = '_'
  · rw [escapeLike, if_pos h]
    rfl
  · rw [escapeLike, if_neg h]
    exact unescapeLike_cons_of_ne (fun hc => h (.inl hc)) cs

/-- The needle of the pattern for texts that contain it. -/
def needleOf (pattern : String) : List Char :=
  unescapeLike pattern.toList.tail.dropLast

/-- The pattern for a needle is of no other needle. -/
@[simp] theorem needleOf_likePattern (needle : String) :
    needleOf (likePattern needle) = needle.toList := by
  have hunescape : ∀ cs : List Char, unescapeLike (cs.flatMap escapeLike) = cs := fun cs => by
    induction cs with
    | nil => rfl
    | cons c cs ih => rw [List.flatMap_cons, unescapeLike_escapeLike, ih]
  simp [needleOf, likePattern, hunescape]

/-! ### Meanings -/

namespace Condition

mutual
/-- Whether a run satisfies a condition in SQL, as a storage condition on it is decided. -/
def holds (run : Run) : Condition → Bool
  | .constant value => value
  | .join op first rest => op.join (first.holds run :: holdsEach run rest)
  | .compare field op value => (Predicate.compare field op value).holds run
  | .isOneOf field first rest => (Predicate.isOneOf field (first :: rest)).holds run
  | .overlaps field values => (Predicate.overlaps field values).holds run
  | .like field pattern =>
    (run.fieldText? field).any fun s =>
      Text.occursIn (Text.lowerChars (needleOf pattern)) (Text.lowerChars s.toList)
  | .someStringLike payload pattern =>
    (run.payload? payload).any (·.someStringContains (Text.lowerChars (needleOf pattern)))
/-- Which ones of the conditions a run satisfies. -/
def holdsEach (run : Run) : List Condition → List Bool
  | [] => []
  | c :: cs => c.holds run :: holdsEach run cs
end

@[simp] theorem holdsEach_eq_map (run : Run) (cs : List Condition) :
    holdsEach run cs = cs.map (holds run) := by
  induction cs with
  | nil => rfl
  | cons c cs ih => simp [holdsEach, ih]

@[simp] theorem holds_joined (run : Run) (op : Connective) (cs : List Condition) :
    (joined op cs).holds run = op.join (cs.map (holds run)) := by
  cases cs <;> simp [joined, holds]

end Condition

end Sql

namespace Predicate

open Sql (Condition likePattern)

@[simp] theorem holds_searchCondition (run : Run) (needle : String) (field : Field) :
    (searchCondition (likePattern needle) field).holds run =
      run.fieldContains (Text.lowerChars needle.toList) field := by
  cases field <;> simp [searchCondition, Condition.holds, Run.fieldContains, Run.payload?]

mutual
/-- A storage condition means what its SQL condition means. -/
theorem holds_condition (run : Run) : ∀ p : Predicate, p.condition.holds run = p.holds run
  | .always => rfl
  | .never => rfl
  | .all parts => by
    simp [condition, Connective.join, map_holds_condition run parts, List.all_map]
  | .any parts => by
    simp [condition, Connective.join, map_holds_condition run parts, List.any_map]
  | .compare field op value => rfl
  | .isOneOf field [] => by simp [condition, Condition.holds, holds]
  | .isOneOf field (first :: rest) => rfl
  | .overlaps field values => rfl
  | .contains fields needle => by
    simp [condition, holds, Connective.join, List.any_map, Function.comp_def]
theorem map_holds_condition (run : Run) : ∀ ps : List Predicate,
    (ps.map condition).map (Condition.holds run) = ps.map (holds run)
  | [] => rfl
  | p :: ps => by
    rw [List.map_cons, List.map_cons, List.map_cons, holds_condition run p,
      map_holds_condition run ps]
end

end Predicate

namespace Sql

/-! ### Reading fields -/

theorem Parameter.ofScalar_injective {v w : Scalar} (h : ofScalar v = ofScalar w) : v = w := by
  cases v <;> cases w <;> simp_all [ofScalar]

/-- The field at the front of some tokens, if one stands there, and what stands behind it. -/
def readField : List Token → Option (Field × List Token)
  | .symbol .kind :: ts => some (.kind, ts)
  | .symbol .name :: ts => some (.name, ts)
  | .symbol .status :: ts => some (.status, ts)
  | .symbol .externalUser :: ts => some (.externalUser, ts)
  | .symbol .cost :: ts => some (.cost, ts)
  | .symbol .tags :: ts => some (.tags, ts)
  | .symbol .input :: ts => some (.input, ts)
  | .symbol .output :: ts => some (.output, ts)
  | .symbol .opening :: .symbol .duration :: .symbol .closing :: ts => some (.durationMs, ts)
  | .symbol .opening :: .symbol .totalTokens :: .symbol .closing :: ts =>
    some (.totalTokens, ts)
  | .symbol .opening :: .symbol .metadata :: .bind (.text key) :: .symbol .closing :: ts =>
    some (.metadata key, ts)
  | _ => none

@[simp] theorem readField_fieldTokens (field : Field) (ts : List Token) :
    readField (fieldTokens field ++ ts) = some (field, ts) := by
  cases field <;> rfl

/-- Tokens that begin with a field each begin with the same one. -/
theorem fieldTokens_append_inj {f g : Field} {s t : List Token}
    (h : fieldTokens f ++ s = fieldTokens g ++ t) : f = g ∧ s = t := by
  simpa using congrArg readField h

/-- A field in parentheses is not one. -/
@[simp] theorem readField_opening_fieldTokens (field : Field) (ts : List Token) :
    readField (.symbol .opening :: (fieldTokens field ++ ts)) = none := by
  cases field <;> rfl

namespace Condition

/-- A comparison with a pattern begins with the field that is compared. -/
@[simp] theorem readField_tokens_like (field : Field) (pattern : String) (ts : List Token) :
    readField ((like field pattern).tokens ++ ts) =
      some (field, .symbol .alike :: .bind (.text pattern) :: ts) := by
  simp [tokens]

/-- A condition in parentheses is no field. -/
@[simp] theorem readField_opening_tokens (c : Condition) (ts : List Token) :
    readField (.symbol .opening :: (c.tokens ++ ts)) = none := by
  cases c with
  | like field pattern => simp [tokens]
  | _ => rfl

/-- What kind of condition some tokens begin with. -/
inductive Kind
  | constant
  | join
  | compare
  | isOneOf
  | overlaps
  | like
  | someStringLike

/-- The kind of a condition. -/
def kind : Condition → Kind
  | .constant _ => .constant
  | .join _ _ _ => .join
  | .compare _ _ _ => .compare
  | .isOneOf _ _ _ => .isOneOf
  | .overlaps _ _ => .overlaps
  | .like _ _ => .like
  | .someStringLike _ _ => .someStringLike

/-- The kind of the condition that some tokens begin with. -/
def readKind (ts : List Token) : Kind :=
  match readField ts, ts with
  | some _, _ => .like
  | none, .symbol (.constant _) :: _ => .constant
  | none, .symbol .search :: _ => .someStringLike
  | none, _ :: ts =>
    -- behind the parenthesis, or at the end
    match readField ts with
    | some (_, .symbol (.operator _) :: _) => .compare
    | some (_, .symbol .amongst :: _) => .isOneOf
    | some (_, .symbol .overlapping :: _) => .overlaps
    | _ => .join
  | none, [] => .join

/-- No other condition begins with a field. -/
theorem readField_tokens (c : Condition) (ts : List Token) :
    readField (c.tokens ++ ts) = none ∨
      ∃ field us, readField (c.tokens ++ ts) = some (field, .symbol .alike :: us) := by
  cases c with
  | like field pattern => exact .inr ⟨field, _, readField_tokens_like field pattern ts⟩
  | constant value => exact .inl rfl
  | someStringLike payload pattern => exact .inl rfl
  | _ => left; simp [tokens]

/-- The tokens of a condition tell its kind, whatever stands behind them. -/
@[simp] theorem readKind_tokens (c : Condition) (ts : List Token) :
    readKind (c.tokens ++ ts) = c.kind := by
  cases c with
  | constant value => rfl
  | someStringLike payload pattern => rfl
  | like field pattern => simp [readKind, kind]
  | join op first rest =>
    -- the first condition may begin with a field, as a test of a field in parentheses does
    rcases readField_tokens first (furtherTokens op rest ++ .symbol .closing :: ts) with
      h | ⟨field, us, h⟩ <;> simp [readKind, kind, tokens, h]
  | _ => simp [readKind, kind, tokens]

/-! ### Reading conditions -/

theorem scalarTokens_append_inj {vs ws : List Scalar} {s t : List Token}
    (h : scalarTokens vs ++ .symbol .closing :: s = scalarTokens ws ++ .symbol .closing :: t) :
    vs = ws ∧ s = t := by
  induction vs generalizing ws with
  | nil => cases ws <;> simp_all [scalarTokens]
  | cons v vs ih =>
    cases ws with
    | nil => simp [scalarTokens] at h
    | cons w ws =>
      simp only [scalarTokens, List.flatMap_cons, List.cons_append, List.nil_append,
        List.cons.injEq, true_and, Token.bind.injEq] at h
      obtain ⟨hvalue, hrest⟩ := h
      obtain ⟨rfl, rfl⟩ := ih hrest
      exact ⟨by rw [Parameter.ofScalar_injective hvalue], rfl⟩

theorem kind_eq_of_tokens_append {c d : Condition} {s t : List Token}
    (h : c.tokens ++ s = d.tokens ++ t) : c.kind = d.kind := by
  simpa using congrArg readKind h

mutual
/-- Tokens that begin with a condition each begin with conditions of the same meaning, and go on
alike behind them. -/
theorem holds_eq_of_tokens_append : ∀ (c d : Condition) {s t : List Token},
    c.tokens ++ s = d.tokens ++ t → (∀ run, c.holds run = d.holds run) ∧ s = t
  -- the induction is on the first condition; the tokens tell the kind of the second one
  | .constant value, d, s, t, h => by
    have hkind := kind_eq_of_tokens_append h
    cases d with
    | constant value' =>
      obtain ⟨rfl, rfl⟩ : value = value' ∧ s = t := by simpa [tokens] using h
      exact ⟨fun _ => rfl, rfl⟩
    | _ => cases hkind
  | .join op first rest, d, s, t, h => by
    have hkind := kind_eq_of_tokens_append h
    cases d with
    | join op' first' rest' =>
      simp only [tokens, List.cons_append, List.append_assoc, List.cons.injEq, true_and,
        List.nil_append] at h
      obtain ⟨hfirst, hbehind⟩ := holds_eq_of_tokens_append first first' h
      obtain ⟨hrest, hop, rfl⟩ := holdsEach_eq_of_furtherTokens_append rest rest' hbehind
      refine ⟨fun run => ?_, rfl⟩
      rw [holds, holds, hfirst, hrest]
      rcases hop with rfl | rfl
      · -- of one condition, both connectives are that condition
        rw [← hrest, holdsEach, Connective.join_singleton, Connective.join_singleton]
      · rfl
    | _ => cases hkind
  | .compare field op value, d, s, t, h => by
    have hkind := kind_eq_of_tokens_append h
    cases d with
    | compare field' op' value' =>
      simp only [tokens, List.cons_append, List.append_assoc, List.cons.injEq, true_and] at h
      obtain ⟨rfl, hbehind⟩ := fieldTokens_append_inj h
      obtain ⟨rfl, hvalue, rfl⟩ :
          op = op' ∧ Parameter.ofScalar value = .ofScalar value' ∧ s = t := by
        simpa using hbehind
      exact ⟨fun _ => by rw [Parameter.ofScalar_injective hvalue], rfl⟩
    | _ => cases hkind
  | .isOneOf field first rest, d, s, t, h => by
    have hkind := kind_eq_of_tokens_append h
    cases d with
    | isOneOf field' first' rest' =>
      simp only [tokens, List.cons_append, List.append_assoc, List.cons.injEq, true_and] at h
      obtain ⟨rfl, hbehind⟩ := fieldTokens_append_inj h
      obtain ⟨hfirst, hscalars⟩ := by simpa using hbehind
      obtain ⟨rfl, hst⟩ := scalarTokens_append_inj hscalars
      exact ⟨fun _ => by rw [Parameter.ofScalar_injective hfirst], by simpa using hst⟩
    | _ => cases hkind
  | .overlaps field values, d, s, t, h => by
    have hkind := kind_eq_of_tokens_append h
    cases d with
    | overlaps field' values' =>
      simp only [tokens, List.cons_append, List.append_assoc, List.cons.injEq, true_and] at h
      obtain ⟨rfl, hbehind⟩ := fieldTokens_append_inj h
      obtain ⟨rfl, rfl⟩ : values = values' ∧ s = t := by simpa using hbehind
      exact ⟨fun _ => rfl, rfl⟩
    | _ => cases hkind
  | .like field pattern, d, s, t, h => by
    have hkind := kind_eq_of_tokens_append h
    cases d with
    | like field' pattern' =>
      rw [tokens, tokens, List.append_assoc, List.append_assoc] at h
      obtain ⟨rfl, hbehind⟩ := fieldTokens_append_inj h
      obtain ⟨rfl, rfl⟩ : pattern = pattern' ∧ s = t := by simpa using hbehind
      exact ⟨fun _ => rfl, rfl⟩
    | _ => cases hkind
  | .someStringLike payload pattern, d, s, t, h => by
    have hkind := kind_eq_of_tokens_append h
    cases d with
    | someStringLike payload' pattern' =>
      obtain ⟨rfl, rfl, rfl⟩ : payload = payload' ∧ pattern = pattern' ∧ s = t := by
        simpa [tokens] using h
      exact ⟨fun _ => rfl, rfl⟩
    | _ => cases hkind
/-- So do tokens of further conditions, up to the parenthesis that ends the junction. -/
theorem holdsEach_eq_of_furtherTokens_append {op op' : Connective} :
    ∀ (cs ds : List Condition) {s t : List Token},
      furtherTokens op cs ++ .symbol .closing :: s =
          furtherTokens op' ds ++ .symbol .closing :: t →
        (∀ run, holdsEach run cs = holdsEach run ds) ∧ (cs = [] ∨ op = op') ∧ s = t
  | [], [], _, _, h => by simpa [furtherTokens] using h
  | [], d :: ds, _, _, h => by simp [furtherTokens] at h
  | c :: cs, [], _, _, h => by simp [furtherTokens] at h
  | c :: cs, d :: ds, _, _, h => by
    simp only [furtherTokens, List.cons_append, List.append_assoc, List.cons.injEq] at h
    obtain ⟨hop, h⟩ := h
    obtain ⟨hfirst, hbehind⟩ := holds_eq_of_tokens_append c d h
    obtain ⟨hrest, -, rfl⟩ := holdsEach_eq_of_furtherTokens_append cs ds hbehind
    refine ⟨fun run => by rw [holdsEach, holdsEach, hfirst, hrest], .inr ?_, rfl⟩
    simpa using hop
end

end Condition

end Sql

namespace Predicate

open Sql (Condition)

/-- Storage conditions that are written as the same statement, with the same text and the same
parameters, hold of the same runs. -/
theorem holds_eq_of_statement_eq {p q : Predicate} (h : p.statement = q.statement) (run : Run) :
    p.holds run = q.holds run := by
  have htokens : p.condition.tokens = q.condition.tokens := Condition.tokens_eq_of_ofPieces_eq h
  have hcondition : ∀ run, p.condition.holds run = q.condition.holds run :=
    (Condition.holds_eq_of_tokens_append _ _ (congrArg (· ++ []) htokens)).1
  rw [← holds_condition, hcondition, holds_condition]

/-- A search in no field is written as an empty list is, and a conjunction of one search as a
disjunction of it. -/
theorem holds_eq_of_search_nested :
    (any [contains [] "x", all [contains [.input, .metadata "model"] "50%"]]).statement =
        (any [isOneOf .name [], any [contains [.input, .metadata "model"] "50%"]]).statement ∧
      ∀ run,
        (any [contains [] "x", all [contains [.input, .metadata "model"] "50%"]]).holds run =
          (any [isOneOf .name [], any [contains [.input, .metadata "model"] "50%"]]).holds run :=
  ⟨rfl, holds_eq_of_statement_eq rfl⟩

end Predicate

end RunRadar
