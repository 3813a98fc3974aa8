import RunRadar.Number.Binary64

/-!
# RunRadar.Predicate.Basic

**Storage conditions**: Boolean combinations of tests on the fields of a run. A condition
can be decided in process (`Predicate.Match`) and written as SQL (`Predicate.Sql`).
-/

namespace RunRadar

/-- A literal that a field is compared with. -/
inductive Scalar
  | text (s : String)
  | number (x : Binary64)
  | integer (i : Int)
deriving DecidableEq

/-- A field of a run. -/
inductive Field
  | kind
  | name
  | status
  | externalUser
  | durationMs
  | cost
  | totalTokens
  | tags
  | metadata (key : String)
  | input
  | output
deriving DecidableEq

/-- A comparison operator. -/
inductive Operator
  | eq
  | neq
  | gt
  | gte
  | lt
  | lte
deriving DecidableEq

/-- A condition on runs. -/
inductive Predicate
  | always
  | never
  /-- All parts hold; of none, that is so. -/
  | all (parts : List Predicate)
  /-- Some part holds; of none, that is not so. -/
  | any (parts : List Predicate)
  | compare (field : Field) (op : Operator) (value : Scalar)
  /-- The field equals one of the values. -/
  | isOneOf (field : Field) (values : List Scalar)
  /-- The field is a list that shares an element with the values. -/
  | overlaps (field : Field) (values : List String)
  /-- One of the fields contains the needle, whatever the case. -/
  | contains (fields : List Field) (needle : String)

namespace Operator

/-- The words for the operators. -/
def names : List String := ["eq", "neq", "gt", "gte", "lt", "lte"]

/-- The operator that a word stands for. -/
def ofName? (name : String) : Option Operator :=
  if name = "eq" then some .eq
  else if name = "neq" then some .neq
  else if name = "gt" then some .gt
  else if name = "gte" then some .gte
  else if name = "lt" then some .lt
  else if name = "lte" then some .lte
  else none

/-- The word for an operator. -/
def name : Operator → String
  | .eq => "eq"
  | .neq => "neq"
  | .gt => "gt"
  | .gte => "gte"
  | .lt => "lt"
  | .lte => "lte"

/-- The operator in SQL. -/
def sql : Operator → String
  | .eq => "="
  | .neq => "<>"
  | .gt => ">"
  | .gte => ">="
  | .lt => "<"
  | .lte => "<="

/-- The operator on numbers. Beside a not-a-number only `neq` holds. -/
def holds (op : Operator) (x y : Binary64) : Bool :=
  match op with
  | .eq => x.eq y
  | .neq => !x.eq y
  | .gt => y.lt x
  | .gte => y.le x
  | .lt => x.lt y
  | .lte => x.le y

/-- The operator on texts, in the order of their code points. -/
def holdsText (op : Operator) (s t : String) : Bool :=
  match op with
  | .eq => s = t
  | .neq => s ≠ t
  | .gt => t < s
  | .gte => ¬s < t
  | .lt => s < t
  | .lte => ¬t < s

@[simp] theorem ofName?_name (op : Operator) : ofName? op.name = some op := by
  cases op <;> decide

theorem name_mem_names (op : Operator) : op.name ∈ names := by
  cases op <;> decide

/-- The words of `names` are those that stand for an operator. -/
theorem exists_ofName?_of_mem {name : String} (h : name ∈ names) :
    ∃ op, ofName? name = some op := by
  simp only [names, List.mem_cons, List.not_mem_nil, or_false] at h
  rcases h with rfl | rfl | rfl | rfl | rfl | rfl
  · exact ⟨.eq, by decide⟩
  · exact ⟨.neq, by decide⟩
  · exact ⟨.gt, by decide⟩
  · exact ⟨.gte, by decide⟩
  · exact ⟨.lt, by decide⟩
  · exact ⟨.lte, by decide⟩

end Operator

end RunRadar
