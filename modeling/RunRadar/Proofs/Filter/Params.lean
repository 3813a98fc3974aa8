import RunRadar.Filter.Stored

/-!
# RunRadar.Proofs.Filter.Params

Which **params a filter accepts**. A schema accepts params when each of its declarations does, and
a declaration of a param that has to be there does when the param can be read as it says
(`ParamReader.check_needed_eq_ok_iff`). So a filter that storage decides makes a condition of params
when they can be read as declared and its builder does not object (`Filter.predicate?_eq_ok_iff`).
-/

namespace RunRadar

namespace ParamReader

variable {reader : ParamReader} {name : String}

/-! ### Checking by reading -/

/-- What is read for a check is forgotten. -/
theorem forgotten_eq_ok {ε α : Type} {x : Except ε α} :
    (x.map fun _ => ()) = .ok () ↔ ∃ a, x = .ok a := by
  cases x <;> simp [Except.map]

/-- Whether a param can be read as one of some kind. -/
def Reads (reader : ParamReader) (name : String) : ParamKind → Prop
  | .text => ∃ s, reader.text name = .ok s
  | .number => ∃ x, reader.number name = .ok x
  | .select options => ∃ value, reader.select name options = .ok value
  | .list => ∃ items, reader.list name = .ok items

/-- A param that has to be there is checked by reading it. -/
theorem check_needed_eq_ok_iff {kind : ParamKind} :
    reader.check (.needed name kind) = .ok () ↔ reader.Reads name kind := by
  unfold check ParamSpec.needed
  dsimp only
  cases hg : reader.given? name with
  | none => cases kind <;> simp [Reads, text, number, select, list, hg]
  | some value => cases kind <;> exact forgotten_eq_ok

/-- Params fit a schema when they fit each of its declarations. -/
theorem validate_eq_ok_iff {schema : List ParamSpec} :
    reader.validate schema = .ok () ↔ ∀ spec ∈ schema, reader.check spec = .ok () := by
  induction schema with
  | nil => simp [validate]
  | cons spec schema ih =>
      rw [validate, List.forall_mem_cons]
      cases reader.check spec with
      | error err => simp
      | ok _ => simpa using ih

/-! ### What a reading depends on -/

section Congr

variable {reader reader' : ParamReader} {name : String} (hfilter : reader.filter = reader'.filter)
  (hgiven : reader.given? name = reader'.given? name)
include hfilter hgiven

theorem text_congr : reader.text name = reader'.text name := by
  simp only [text, missing, wrongType, hfilter, hgiven]

theorem number_congr : reader.number name = reader'.number name := by
  simp only [number, missing, wrongType, hfilter, hgiven]

theorem select_congr (options : List String) :
    reader.select name options = reader'.select name options := by
  simp only [select, hfilter, text_congr hfilter hgiven]

theorem list_congr : reader.list name = reader'.list name := by
  simp only [list, missing, wrongType, hfilter, hgiven]

end Congr

/-- The check of a declaration looks at its param and at no other. -/
theorem check_congr {reader reader' : ParamReader} {spec : ParamSpec}
    (hfilter : reader.filter = reader'.filter)
    (hgiven : reader.given? spec.name = reader'.given? spec.name) :
    reader.check spec = reader'.check spec := by
  simp only [check, hgiven, missing, hfilter, text_congr hfilter hgiven,
    number_congr hfilter hgiven, select_congr hfilter hgiven, list_congr hfilter hgiven]

/-! ### Lists -/

/-- A list is read when there is one of strings and numbers. -/
theorem list_eq_ok_iff {items : List Json} :
    reader.list name = .ok items ↔ reader.given? name = some (.array items) ∧
      ∀ item ∈ items, (item.isString || item.isNumber) = true := by
  rw [← List.all_eq_true]
  unfold list
  split
  · next items' hg =>
      rw [hg]
      by_cases hall : (items'.all fun item => item.isString || item.isNumber) = true
      · rw [if_pos hall]
        constructor
        · intro h
          cases h
          exact ⟨rfl, hall⟩
        · rintro ⟨h, -⟩
          cases h
          rfl
      · rw [if_neg hall]
        constructor
        · intro h
          cases h
        · rintro ⟨h, hitems⟩
          cases h
          exact absurd hitems hall
  · next value hvalue hg =>
      rw [hg]
      constructor
      · intro h
        cases h
      · rintro ⟨h, -⟩
        cases h
        exact absurd rfl (hvalue items)
  · next hg => simp [hg]

end ParamReader

namespace Filter

variable {filter : Filter} {build : ConditionBuilder} {params : Json.Object} {p : Predicate}

/-- Params that fit are made into a condition, where storage can decide. -/
theorem predicate?_of_fits (hb : filter.builder? = some build)
    (hv : filter.validate params = .ok ()) :
    filter.predicate? params = some (build (filter.reader params)) := by
  simp only [predicate?, hb, hv]

/-- A filter makes a condition of params that fit its schema and that its builder accepts. -/
theorem predicate?_eq_ok_iff (hb : filter.builder? = some build) :
    filter.predicate? params = some (.ok p) ↔
      filter.validate params = .ok () ∧ build (filter.reader params) = .ok p := by
  rw [predicate?, hb]
  cases filter.validate params <;> simp

/-- Where a builder only accepts params that fit the schema, a filter accepts what its builder
accepts. -/
theorem predicate?_eq_ok_iff_builds (hb : filter.builder? = some build)
    (hfits : build (filter.reader params) = .ok p →
      ∀ spec ∈ filter.schema, (filter.reader params).check spec = .ok ()) :
    filter.predicate? params = some (.ok p) ↔ build (filter.reader params) = .ok p := by
  rw [predicate?_eq_ok_iff hb]
  constructor
  · rintro ⟨-, h⟩
    exact h
  · intro h
    exact ⟨ParamReader.validate_eq_ok_iff.mpr (hfits h), h⟩

namespace Stored

/-! ### Comparisons with a number -/

variable {reader : ParamReader} {op : Operator} {x : Binary64}

/-- The operator is read from one of the words for operators. -/
theorem exists_select_of_operator (h : operator reader = .ok op) :
    ∃ name, reader.select "operator" Operator.names = .ok name := by
  unfold operator at h
  cases hs : reader.select "operator" Operator.names with
  | error err =>
      rw [hs] at h
      cases h
  | ok name => exact ⟨name, rfl⟩

theorem numeric_eq_ok_iff {field : Field} {name : String} :
    numeric field name reader = .ok p ↔ ∃ op x, operator reader = .ok op ∧
      reader.number name = .ok x ∧ p = .compare field op (.number x) := by
  unfold numeric
  cases operator reader with
  | error err => simp
  | ok op => cases reader.number name <;> simp [Except.map, eq_comm]

/-- A filter that compares a field with a number makes a condition of an operator and a number. -/
theorem predicate?_numeric {id name : String} {field : Field} :
    (define id (numericSchema name) (numeric field name)).predicate? params = some (.ok p) ↔
      ∃ op x, operator ⟨id, params⟩ = .ok op ∧ (⟨id, params⟩ : ParamReader).number name = .ok x ∧
        p = .compare field op (.number x) := by
  have hb : (define id (numericSchema name) (numeric field name)).builder? =
      some (numeric field name) := rfl
  rw [← numeric_eq_ok_iff]
  refine predicate?_eq_ok_iff_builds hb fun h spec hspec => ?_
  obtain ⟨op, x, hop, hx, -⟩ := numeric_eq_ok_iff.mp h
  rcases List.mem_cons.mp hspec with rfl | hspec
  · exact ParamReader.check_needed_eq_ok_iff.mpr (exists_select_of_operator hop)
  · obtain rfl := List.mem_singleton.mp hspec
    exact ParamReader.check_needed_eq_ok_iff.mpr ⟨x, hx⟩

/-! ### User ids -/

/-- Only strings and numbers stand for user ids. -/
theorem isString_or_isNumber_of_itemInteger? {item : Json} {i : Int}
    (h : itemInteger? item = some i) : (item.isString || item.isNumber) = true := by
  cases item <;> first | rfl | cases h

/-- A list of user ids is a list of strings and numbers. -/
theorem isString_or_isNumber_of_mapM {items : List Json} {ids : List Int}
    (h : items.mapM itemInteger? = some ids) :
    ∀ item ∈ items, (item.isString || item.isNumber) = true := by
  induction items generalizing ids with
  | nil => simp
  | cons item items ih =>
      simp only [List.mapM_cons, Option.bind_eq_bind, Option.bind_eq_some_iff] at h
      obtain ⟨i, hi, rest, hrest, -⟩ := h
      rw [List.forall_mem_cons]
      exact ⟨isString_or_isNumber_of_itemInteger? hi, ih hrest⟩

theorem users_eq_ok_iff :
    users reader = .ok p ↔ ∃ items ids, reader.given? "users" = some (.array items) ∧
      items.mapM itemInteger? = some ids ∧ p = .isOneOf .externalUser (ids.map .integer) := by
  have hlist : users reader = .ok p ↔ ∃ items ids, reader.list "users" = .ok items ∧
      items.mapM itemInteger? = some ids ∧ p = .isOneOf .externalUser (ids.map .integer) := by
    unfold users
    cases reader.list "users" with
    | error err => simp
    | ok items => cases hids : items.mapM itemInteger? <;> simp [hids, eq_comm]
  rw [hlist]
  refine exists₂_congr fun items ids => ?_
  rw [ParamReader.list_eq_ok_iff]
  constructor
  · rintro ⟨⟨hgiven, -⟩, hids, hp⟩
    exact ⟨hgiven, hids, hp⟩
  · rintro ⟨hgiven, hids, hp⟩
    exact ⟨⟨hgiven, isString_or_isNumber_of_mapM hids⟩, hids, hp⟩

/-- The filter by user ids makes a condition of a list of them. -/
theorem predicate?_users {id : String} :
    (define id [.needed "users" .list] users).predicate? params = some (.ok p) ↔
      ∃ items ids, params.present? "users" = some (.array items) ∧
        items.mapM itemInteger? = some ids ∧ p = .isOneOf .externalUser (ids.map .integer) := by
  have hb : (define id [.needed "users" .list] users).builder? = some users := rfl
  show _ ↔ ∃ items ids, (⟨id, params⟩ : ParamReader).given? "users" = some (.array items) ∧ _
  rw [← users_eq_ok_iff]
  refine predicate?_eq_ok_iff_builds hb fun h spec hspec => ?_
  obtain ⟨items, ids, hgiven, hids, -⟩ := users_eq_ok_iff.mp h
  obtain rfl := List.mem_singleton.mp hspec
  have hlist := ParamReader.list_eq_ok_iff.mpr ⟨hgiven, isString_or_isNumber_of_mapM hids⟩
  exact ParamReader.check_needed_eq_ok_iff.mpr ⟨items, hlist⟩

end Stored

end Filter

end RunRadar
