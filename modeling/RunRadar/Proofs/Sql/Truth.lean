import RunRadar.Proofs.Sql.Meaning

/-!
# RunRadar.Proofs.Sql.Truth

**Three-valued logic**: a condition in SQL is true, false or NULL of a row, and only the rows that
it is true of are selected. In process a condition holds of a run or does not, and a test of a
field that the run lacks does not hold.

Both ways agree on which runs are selected (`Predicate.selects_iff_holds`), although NULL is carried
up through junctions where the test in process gives false at once. For conditions have no negation:
whether a junction is true depends on which of its operands are true, and on nothing else
(`Truth.isTrue_junction`).
-/

namespace RunRadar

namespace Sql

/-- A truth value of SQL, where `none` is NULL. -/
abbrev Truth := Option Bool

namespace Truth

/-! ### Connectives -/

/-- A false operand decides, and otherwise NULL prevails. -/
def and : Truth → Truth → Truth
  | some false, _ => some false
  | _, some false => some false
  | some true, some true => some true
  | _, _ => none

/-- A true operand decides, and otherwise NULL prevails. -/
def or : Truth → Truth → Truth
  | some true, _ => some true
  | _, some true => some true
  | some false, some false => some false
  | _, _ => none

/-- Two truth values, joined. -/
def combine : Connective → Truth → Truth → Truth
  | .and => and
  | .or => or

/-- At least one truth value, all joined by one connective from left to right. -/
def junction (op : Connective) (first : Truth) (rest : List Truth) : Truth :=
  rest.foldl (combine op) first

/-- Whether a row of which a condition has this truth value is selected. -/
def isTrue (t : Truth) : Bool := t == some true

@[simp] theorem isTrue_some (b : Bool) : isTrue (some b) = b := by
  cases b <;> rfl

@[simp] theorem isTrue_none : isTrue none = false := rfl

theorem isTrue_iff {t : Truth} : t.isTrue = true ↔ t = some true := beq_iff_eq

/-- A test that is NULL where there is nothing to test is true where there is something that passes
it. -/
@[simp] theorem isTrue_map {α : Type} (x : Option α) (test : α → Bool) :
    isTrue (x.map test) = x.any test := by
  cases x with
  | none => rfl
  | some a => exact isTrue_some (test a)

theorem isTrue_and (a b : Truth) : (a.and b).isTrue = (a.isTrue && b.isTrue) := by
  rcases a with _ | _ | _ <;> rcases b with _ | _ | _ <;> rfl

theorem isTrue_or (a b : Truth) : (a.or b).isTrue = (a.isTrue || b.isTrue) := by
  rcases a with _ | _ | _ <;> rcases b with _ | _ | _ <;> rfl

/-- Joining a first truth value to a second one makes as much true as the two do. -/
theorem join_isTrue_combine (op : Connective) (a b : Truth) (vs : List Bool) :
    op.join ((combine op a b).isTrue :: vs) = op.join (a.isTrue :: b.isTrue :: vs) := by
  cases op with
  | and => simp [Connective.join, combine, isTrue_and, Bool.and_assoc]
  | or => simp [Connective.join, combine, isTrue_or, Bool.or_assoc]

/-- Whether a junction is true depends on which of its operands are. -/
theorem isTrue_junction (op : Connective) (first : Truth) (rest : List Truth) :
    (junction op first rest).isTrue = op.join ((first :: rest).map isTrue) := by
  induction rest generalizing first with
  | nil => exact (Connective.join_singleton op first.isTrue).symm
  | cons next rest ih =>
    have hfold : junction op first (next :: rest) = junction op (combine op first next) rest := rfl
    rw [hfold, ih, List.map_cons, join_isTrue_combine, List.map_cons, List.map_cons]

end Truth

namespace Condition

/-! ### Truth of conditions -/

mutual
/-- The truth value of a condition on the row of a run. A test of a field without a value is NULL,
and so is one of tags where there are none. To be one of several values is to be equal to the first
of them, or to the second, and so on. A search in a payload that is NULL finds nothing. -/
def truth (run : Run) : Condition → Truth
  | .constant value => some value
  | .join op first rest => .junction op (first.truth run) (truthEach run rest)
  | .compare field op value => (run.field? field).map (·.holds op value)
  | .isOneOf field first rest =>
    let equals value := (run.field? field).map (·.holds .eq value)
    .junction .or (equals first) (rest.map equals)
  | .overlaps field values =>
    run.tags.map fun tags => field = .tags && tags.any (values.contains ·)
  | .like field pattern =>
    (run.fieldText? field).map fun s =>
      Text.occursIn (Text.lowerChars (needleOf pattern)) (Text.lowerChars s.toList)
  | .someStringLike payload pattern =>
    some ((run.payload? payload).any (·.someStringContains (Text.lowerChars (needleOf pattern))))
/-- The truth values of conditions. -/
def truthEach (run : Run) : List Condition → List Truth
  | [] => []
  | c :: cs => c.truth run :: truthEach run cs
end

variable (run : Run)

/-- Being one of several values is true when an equality with one of them is. -/
theorem isTrue_isOneOf (field : Field) (first : Scalar) (rest : List Scalar) :
    ((isOneOf field first rest).truth run).isTrue =
      (Predicate.isOneOf field (first :: rest)).holds run := by
  rw [truth, Truth.isTrue_junction, Connective.join, Predicate.holds]
  cases run.field? field with
  | none => simp
  | some actual => simp [List.any_map, Function.comp_def]

/-- Tags overlap with a list when there are tags and one of them is in it. -/
theorem isTrue_overlaps (field : Field) (values : List String) :
    ((overlaps field values).truth run).isTrue =
      (Predicate.overlaps field values).holds run := by
  rw [truth, Truth.isTrue_map]
  cases field with
  | tags => simp [Predicate.holds]
  | _ => cases run.tags <;> simp [Predicate.holds]

mutual
/-- A condition is true of the runs that satisfy it in process. -/
theorem isTrue_truth : ∀ c : Condition, (c.truth run).isTrue = c.holds run
  | .constant value => Truth.isTrue_some value
  | .join op first rest => by
    rw [truth, Truth.isTrue_junction, List.map_cons, isTrue_truth first, map_isTrue_truthEach rest,
      holds]
  | .compare field op value => Truth.isTrue_map (run.field? field) (·.holds op value)
  | .isOneOf field first rest => isTrue_isOneOf run field first rest
  | .overlaps field values => isTrue_overlaps run field values
  | .like field pattern => Truth.isTrue_map (run.fieldText? field) _
  | .someStringLike payload pattern => Truth.isTrue_some _
theorem map_isTrue_truthEach : ∀ cs : List Condition,
    (truthEach run cs).map Truth.isTrue = holdsEach run cs
  | [] => rfl
  | c :: cs => by
    rw [truthEach, List.map_cons, isTrue_truth c, map_isTrue_truthEach cs, holdsEach]
end

end Condition

end Sql

namespace Predicate

open Sql (Condition Statement Truth)

/-- Whatever condition the SQL of a storage condition is read as, its rows are those of the runs
that the storage condition holds of in process. -/
theorem selects_iff_holds {p : Predicate} {c : Condition}
    (h : Statement.ofPieces c.pieces = p.statement) (run : Run) :
    c.truth run = some true ↔ p.holds run = true := by
  have htokens : c.tokens = p.condition.tokens := Condition.tokens_eq_of_ofPieces_eq h
  have hmeaning : c.holds run = p.condition.holds run :=
    (Condition.holds_eq_of_tokens_append _ _ (congrArg (· ++ []) htokens)).1 run
  rw [← Truth.isTrue_iff, Condition.isTrue_truth, hmeaning, holds_condition]

/-- A run without a name and without tags: one comparison is NULL and so is the overlap, and what
counts in the end is its status. -/
theorem selects_iff_holds_missing :
    let p := all [any [compare .name .neq (.text "a"), compare .kind .eq (.text "llm")], all [],
      any [isOneOf .status [.text "error", .text "success"], overlaps .tags ["b"],
        contains [.name, .input] "c", isOneOf .name [], contains [] "d", any []]]
    let run status : Run :=
      { id := .nil, project := .nil, kind := "llm", name := none, status, input := none,
        output := none, tags := none, metadata := none, promptTokens := none,
        completionTokens := none, cost := none, externalUser := none,
        createdAt := ⟨0, 0, by decide⟩, endedAt := none }
    Statement.ofPieces p.condition.pieces = p.statement ∧
      p.condition.truth (run (some "success")) = some true ∧
      p.condition.truth (run none) = none ∧ p.holds (run none) = false := by
  intro p run
  have hsuccess : p.holds (run (some "success")) = true := by decide
  have hnull : p.condition.truth (run none) = none := by decide
  have hnone : ¬ p.holds (run none) = true := fun h => by
    have htrue := (selects_iff_holds (c := p.condition) rfl (run none)).mpr h
    rw [hnull] at htrue
    cases htrue
  exact ⟨rfl, (selects_iff_holds (c := p.condition) rfl _).mpr hsuccess, hnull,
    Bool.eq_false_iff.mpr hnone⟩

end Predicate

end RunRadar
