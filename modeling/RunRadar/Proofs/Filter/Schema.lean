import Mathlib.Algebra.Group.Int.Defs
import RunRadar.Proofs.Filter.Catalog
import RunRadar.Proofs.Filter.Params
import RunRadar.Proofs.Number.Reading

/-!
# RunRadar.Proofs.Filter.Schema

**Schemas suffice.** A built-in filter reads its params twice, once to check them against its schema
and once to use them, and what passes the check can be used (`schema_suffices`). There are two
exceptions, because no declaration says so much: items of a list need not be user ids, and a string
need not be a pattern.

A declaration of a param that has to be there promises that reading it as declared gives a value
(`ParamReader.reads_of_validate`). A filter is then a matter of reading only what its schema
declares.
-/

namespace RunRadar

/-! ### What a schema promises -/

namespace ParamReader

variable {reader : ParamReader} {schema : List ParamSpec} {name : String} {options : List String}

/-- Params that fit a schema can be read as it declares. -/
theorem reads_of_validate (h : reader.validate schema = .ok ()) {kind : ParamKind}
    (hspec : .needed name kind ∈ schema) : reader.Reads name kind :=
  check_needed_eq_ok_iff.mp (validate_eq_ok_iff.mp h _ hspec)

/-- A param that may be absent has a default then. -/
theorem exists_selectOr (h : reader.validate schema = .ok ())
    (hspec : .allowed name (.select options) ∈ schema) (default : String) :
    ∃ value, reader.selectOr name options default = .ok value := by
  have hcheck := validate_eq_ok_iff.mp h _ hspec
  unfold check ParamSpec.allowed at hcheck
  unfold selectOr
  dsimp only at hcheck
  cases hgiven : reader.given? name with
  | none => exact ⟨default, rfl⟩
  | some value =>
      rw [hgiven] at hcheck
      exact forgotten_eq_ok.mp hcheck

theorem mem_of_select {value : String} (h : reader.select name options = .ok value) :
    value ∈ options := by
  unfold select at h
  split at h
  · cases h
  · split at h
    · next hmem =>
        cases h
        exact List.contains_iff_mem.mp hmem
    · cases h

theorem text_eq_ok_iff {s : String} :
    reader.text name = .ok s ↔ reader.given? name = some (.string s) := by
  unfold text
  split
  · next s' hgiven => simp [hgiven]
  · next value hvalue hgiven =>
      rw [hgiven]
      constructor
      · intro h
        cases h
      · intro h
        cases h
        exact absurd rfl (hvalue s)
  · next hgiven => simp [hgiven]

theorem select_eq_ok {value : String} (hgiven : reader.given? name = some (.string value))
    (hvalue : value ∈ options) : reader.select name options = .ok value := by
  rw [select, text_eq_ok_iff.mpr hgiven]
  exact if_pos (List.contains_iff_mem.mpr hvalue)

end ParamReader

/-- Whether params that fit a schema give something to read. -/
def SchemaSuffices {ε α : Type} (schema : List ParamSpec) (read : ParamReader → Except ε α) :
    Prop :=
  ∀ reader : ParamReader, reader.validate schema = .ok () → ∃ a, read reader = .ok a

theorem SchemaSuffices.map {ε α β : Type} {schema : List ParamSpec}
    {read : ParamReader → Except ε α} (h : SchemaSuffices schema read) (f : α → β) :
    SchemaSuffices schema fun reader => (read reader).map f := by
  intro reader hvalid
  obtain ⟨a, ha⟩ := h reader hvalid
  refine ⟨f a, ?_⟩
  dsimp only
  rw [ha, Except.map]

namespace Filter

/-! ### Filters that storage decides -/

namespace Stored

/-- The words for operators that a schema lists are those that stand for one. -/
theorem exists_operator {reader : ParamReader}
    (h : reader.Reads "operator" (.select Operator.names)) : ∃ op, operator reader = .ok op := by
  obtain ⟨name, hname⟩ := h
  obtain ⟨op, hop⟩ := Operator.exists_ofName?_of_mem (ParamReader.mem_of_select hname)
  refine ⟨op, ?_⟩
  rw [operator, hname]
  dsimp only
  rw [hop]

theorem suffices_select (name : String) (options : List String) :
    SchemaSuffices [.needed name (.select options)] fun reader => reader.select name options :=
  fun _ hvalid => ParamReader.reads_of_validate hvalid List.mem_cons_self

theorem suffices_list (name : String) :
    SchemaSuffices [.needed name .list] fun reader => reader.list name :=
  fun _ hvalid => ParamReader.reads_of_validate hvalid List.mem_cons_self

theorem suffices_number (name : String) :
    SchemaSuffices (numericSchema name) fun reader => reader.number name :=
  fun _ hvalid => ParamReader.reads_of_validate hvalid (List.mem_cons_of_mem _ List.mem_cons_self)

theorem suffices_numeric (field : Field) (name : String) :
    SchemaSuffices (numericSchema name) (numeric field name) := by
  intro reader hvalid
  obtain ⟨op, hop⟩ := exists_operator (reader.reads_of_validate hvalid List.mem_cons_self)
  obtain ⟨x, hx⟩ := suffices_number name reader hvalid
  exact ⟨_, numeric_eq_ok_iff.mpr ⟨op, x, hop, hx, rfl⟩⟩

theorem suffices_metadata :
    SchemaSuffices [.needed "key" .text, .needed "value" .text] metadata := by
  intro reader hvalid
  obtain ⟨key, hkey⟩ := reader.reads_of_validate hvalid List.mem_cons_self
  obtain ⟨value, hvalue⟩ := reader.reads_of_validate hvalid
    (List.mem_cons_of_mem _ List.mem_cons_self)
  refine ⟨equals (.metadata key) value, ?_⟩
  rw [metadata, hkey]
  dsimp only
  rw [hvalue, Except.map]

theorem suffices_search : SchemaSuffices [.needed "query" .text] search := by
  have hquery : SchemaSuffices [.needed "query" .text] fun reader => reader.text "query" :=
    fun _ hvalid => ParamReader.reads_of_validate hvalid List.mem_cons_self
  exact hquery.map _

/-- The filter by user ids. -/
def byUser : Filter := define "users" [.needed "users" .list] users

/-- Apart from the one by user ids, a filter that storage decides makes a condition of all params
that fit its schema. -/
theorem suffices_of_mem {filter : Filter} (h : filter ∈ filters) :
    filter = byUser ∨ filter.id ≠ "users" ∧
      ∃ build, filter.kind = .pushdown build ∧ SchemaSuffices filter.schema build := by
  simp only [filters, List.mem_cons, List.not_mem_nil, or_false] at h
  rcases h with rfl | rfl | rfl | rfl | rfl | rfl | rfl | rfl | rfl | rfl
  · exact .inr ⟨by decide, kind, rfl, (suffices_select "type" runKinds).map _⟩
  · exact .inr ⟨by decide, models, rfl, (suffices_list "models").map _⟩
  · exact .inr ⟨by decide, tags, rfl, (suffices_list "tags").map _⟩
  · exact .inr ⟨by decide, status, rfl, (suffices_select "status" runStatuses).map _⟩
  · exact .inl rfl
  · exact .inr ⟨by decide, duration, rfl, suffices_numeric _ _⟩
  · exact .inr ⟨by decide, cost, rfl, suffices_numeric _ _⟩
  · exact .inr ⟨by decide, tokens, rfl, suffices_numeric _ _⟩
  · exact .inr ⟨by decide, metadata, rfl, suffices_metadata⟩
  · exact .inr ⟨by decide, search, rfl, suffices_search⟩

/-! ### User ids -/

/-- An item that stands for a user id: a whole number of sixty-four bits with a sign, or a string
that is written as one once blanks are taken off. -/
def IsUserId : Json → Prop
  | .number n => ∃ i fits, n = .integer i fits ∧ i < 2 ^ 63
  | .string s => ∃ negative digits, Signed negative digits (Text.trim s).toList ∧ digits ≠ [] ∧
      (∀ c ∈ digits, c.isDigit = true) ∧ -2 ^ 63 ≤ signedValue negative digits ∧
        signedValue negative digits < 2 ^ 63
  | _ => False

theorem isSome_itemInteger?_iff {item : Json} :
    (itemInteger? item).isSome = true ↔ IsUserId item := by
  rw [Option.isSome_iff_exists]
  cases item with
  | number n =>
      cases n with
      | integer i fits => simp [itemInteger?, Json.Number.int64?, IsUserId, fits]
      | double x finite => simp [itemInteger?, Json.Number.int64?, IsUserId]
  | string s =>
      simp only [itemInteger?, readInt64?_eq_some_iff, IsUserId]
      constructor
      · rintro ⟨i, negative, digits, hsigned, hne, hdigits, rfl, hbounds⟩
        exact ⟨negative, digits, hsigned, hne, hdigits, hbounds⟩
      · rintro ⟨negative, digits, hsigned, hne, hdigits, hbounds⟩
        exact ⟨_, negative, digits, hsigned, hne, hdigits, rfl, hbounds⟩
  | _ => simp [itemInteger?, IsUserId]

instance (item : Json) : Decidable (IsUserId item) := decidable_of_iff _ isSome_itemInteger?_iff

theorem mapM_eq_none_iff {α β : Type} {f : α → Option β} {xs : List α} :
    xs.mapM f = none ↔ ∃ x ∈ xs, f x = none := by
  induction xs with
  | nil => simp
  | cons x xs ih =>
      cases hx : f x with
      | none => simp [hx]
      | some b => cases hxs : xs.mapM f <;> simp_all

/-- A list is refused when it holds something that stands for no user id. -/
theorem users_eq_error_iff {reader : ParamReader} {items : List Json}
    (h : reader.list "users" = .ok items) {e : ParamError} :
    users reader = .error e ↔ (∃ item ∈ items, ¬ IsUserId item) ∧
      e = .wrongType reader.filter "users" "an array of user ids" := by
  have hrefused : (∃ item ∈ items, ¬ IsUserId item) ↔ items.mapM itemInteger? = none := by
    rw [mapM_eq_none_iff]
    refine exists_congr fun item => and_congr_right fun _ => ?_
    rw [← isSome_itemInteger?_iff, Option.not_isSome_iff_eq_none]
  rw [hrefused, users, h]
  cases hids : items.mapM itemInteger? <;> simp [hids, eq_comm]

/-- What filters that storage decides make of params that fit their schemas. -/
theorem exists_predicate? {filter : Filter} (h : filter ∈ filters) {params : Json.Object}
    (hvalid : filter.validate params = .ok ()) :
    ∃ built, filter.predicate? params = some built ∧
      ∀ e, built = .error e ↔ filter.id = "users" ∧
        (∃ items, params.present? "users" = some (.array items) ∧
          ∃ item ∈ items, ¬ IsUserId item) ∧
        e = .wrongType "users" "users" "an array of user ids" := by
  rcases suffices_of_mem h with rfl | ⟨hid, build, hkind, hsuffices⟩
  · obtain ⟨items, hitems⟩ := suffices_list "users" _ hvalid
    obtain ⟨hgiven, -⟩ := ParamReader.list_eq_ok_iff.mp hitems
    refine ⟨_, predicate?_of_fits rfl hvalid, fun e => ?_⟩
    rw [users_eq_error_iff hitems]
    constructor
    · rintro ⟨hrefused, rfl⟩
      exact ⟨rfl, ⟨items, hgiven, hrefused⟩, rfl⟩
    · rintro ⟨-, ⟨items', hgiven', hrefused⟩, rfl⟩
      cases hgiven.symm.trans hgiven'
      exact ⟨hrefused, rfl⟩
  · have hb : filter.builder? = some build := by rw [builder?, hkind]
    obtain ⟨p, hp⟩ := hsuffices _ hvalid
    exact ⟨_, predicate?_of_fits hb hvalid, by simp [hp, hid]⟩

end Stored

/-! ### Filters that look through texts -/

namespace Scanned

theorem exists_payload {reader : ParamReader} (h : reader.Reads "field" (.select fields)) :
    ∃ p, payload reader = .ok p := by
  obtain ⟨name, hname⟩ := h
  have hmem : name = "input" ∨ name = "output" := by
    simpa [fields] using ParamReader.mem_of_select hname
  rw [payload, hname]
  rcases hmem with rfl | rfl
  · exact ⟨.input, rfl⟩
  · exact ⟨.output, rfl⟩

section Reads

variable {schema : List ParamSpec} {reader : ParamReader} (hvalid : reader.validate schema = .ok ())
include hvalid

theorem exists_payload_of_validate (hspec : fieldSpec ∈ schema) : ∃ p, payload reader = .ok p :=
  exists_payload (reader.reads_of_validate hvalid hspec)

theorem exists_wantsMatch (hspec : matchTypeSpec ∈ schema) : ∃ b, wantsMatch reader = .ok b := by
  obtain ⟨value, hvalue⟩ := ParamReader.exists_selectOr hvalid hspec "contains"
  refine ⟨value = "contains", ?_⟩
  rw [wantsMatch, hvalue, Except.map]

end Reads

theorem suffices_personalData (data : PersonalData) (run : Run) :
    SchemaSuffices [fieldSpec, matchTypeSpec] (data.evaluate run) := by
  intro reader hvalid
  obtain ⟨p, hp⟩ := exists_payload_of_validate hvalid List.mem_cons_self
  obtain ⟨wanted, hwanted⟩ := exists_wantsMatch hvalid (List.mem_cons_of_mem _ List.mem_cons_self)
  rw [PersonalData.evaluate, hp]
  dsimp only
  rw [hwanted]
  exact ⟨_, rfl⟩

/-- The verdict of the filter by length compares a number of characters. -/
theorem length_of_reads {reader : ParamReader} {p : Payload} {op : Operator} {x : Binary64}
    (hp : payload reader = .ok p) (hop : Stored.operator reader = .ok op)
    (hx : reader.number "length" = .ok x) (run : Run) :
    ∃ verdict, length run reader = .ok verdict ∧
      verdict.passed = op.holds (.ofNat (((run.text? p).map String.length).getD 0)) x := by
  rw [length, hp]
  dsimp only
  rw [hop]
  dsimp only
  rw [hx]
  exact ⟨_, rfl, rfl⟩

/-- The filter by length. -/
def byLength : Filter :=
  define "length" [fieldSpec, .needed "operator" (.select Operator.names), .needed "length" .number]
    length

theorem suffices_length (run : Run) : SchemaSuffices byLength.schema (length run) := by
  intro reader hvalid
  obtain ⟨p, hp⟩ := exists_payload_of_validate hvalid List.mem_cons_self
  obtain ⟨op, hop⟩ := Stored.exists_operator (reader.reads_of_validate hvalid
    (List.mem_cons_of_mem _ List.mem_cons_self))
  obtain ⟨x, hx⟩ := reader.reads_of_validate hvalid
    (List.mem_cons_of_mem _ (List.mem_cons_of_mem _ List.mem_cons_self))
  obtain ⟨verdict, hverdict, -⟩ := length_of_reads hp hop hx run
  exact ⟨verdict, hverdict⟩

theorem suffices_json (run : Run) :
    SchemaSuffices [fieldSpec, .allowed "type" (.select jsonTypes)] (json run) := by
  intro reader hvalid
  obtain ⟨p, hp⟩ := exists_payload_of_validate hvalid List.mem_cons_self
  obtain ⟨type, htype⟩ := ParamReader.exists_selectOr hvalid
    (List.mem_cons_of_mem _ List.mem_cons_self) "valid"
  rw [json, hp]
  dsimp only
  rw [htype]
  exact ⟨_, rfl⟩

/-- The filter by a pattern. -/
def byPattern : Filter := define "regex" [fieldSpec, .needed "pattern" .text, matchTypeSpec] pattern

/-- Apart from the one by a pattern, a filter that looks through texts has a verdict for all params
that fit its schema. -/
theorem suffices_of_mem {filter : Filter} (h : filter ∈ filters) :
    filter = byPattern ∨ filter.id ≠ "regex" ∧
      ∃ decide, filter.kind = .evaluator (.steady decide) ∧
        ∀ run, SchemaSuffices filter.schema (decide run) := by
  simp only [filters, List.mem_cons, List.not_mem_nil, or_false] at h
  rcases h with rfl | rfl | rfl | rfl | rfl | rfl
  · exact .inr ⟨by decide, _, rfl, suffices_personalData .mail⟩
  · exact .inr ⟨by decide, _, rfl, suffices_personalData .phone⟩
  · exact .inr ⟨by decide, _, rfl, suffices_personalData .card⟩
  · exact .inl rfl
  · exact .inr ⟨by decide, _, rfl, suffices_length⟩
  · exact .inr ⟨by decide, _, rfl, suffices_json⟩

/-- A text is looked through unless the pattern cannot be read. -/
theorem pattern_eq_error_iff {reader : ParamReader}
    (hvalid : reader.validate byPattern.schema = .ok ())
    {run : Run} {e : EvaluatorError} :
    pattern run reader = .error e ↔
      ∃ source, reader.given? "pattern" = some (.string source) ∧ Pattern.read? source = none ∧
        e = .params (.invalidPattern reader.filter source) := by
  obtain ⟨p, hp⟩ := exists_payload_of_validate hvalid List.mem_cons_self
  obtain ⟨wanted, hwanted⟩ := exists_wantsMatch hvalid
    (List.mem_cons_of_mem _ (List.mem_cons_of_mem _ List.mem_cons_self))
  obtain ⟨source, hsource⟩ := reader.reads_of_validate hvalid
    (List.mem_cons_of_mem _ List.mem_cons_self)
  rw [pattern, hp]
  dsimp only
  rw [hwanted]
  dsimp only
  rw [hsource]
  dsimp only
  have hgiven := ParamReader.text_eq_ok_iff.mp hsource
  cases hread : Pattern.read? source <;> simp [hgiven, hread, eq_comm]

/-- What filters that look through texts answer where params fit their schemas. -/
theorem exists_answer {filter : Filter} (h : filter ∈ filters) {params : Json.Object}
    (hvalid : filter.validate params = .ok ()) {evaluate : Evaluator}
    (hevaluate : filter.evaluator? = some evaluate) (moment : Nat) (run : Run) :
    ∃ result, evaluate moment run (filter.reader params) = .answer result ∧
      ∀ e, result = .error e ↔ filter.id = "regex" ∧
        ∃ source, params.present? "pattern" = some (.string source) ∧
          Pattern.read? source = none ∧ e = .params (.invalidPattern "regex" source) := by
  rcases suffices_of_mem h with rfl | ⟨hid, decide, hkind, hsuffices⟩
  · cases hevaluate
    refine ⟨_, rfl, fun e => ?_⟩
    rw [pattern_eq_error_iff hvalid]
    exact (and_iff_right rfl).symm
  · have he : filter.evaluator? = some (.steady decide) := by rw [evaluator?, hkind]
    cases hevaluate.symm.trans he
    obtain ⟨verdict, hverdict⟩ := hsuffices run _ hvalid
    exact ⟨_, rfl, by simp [hverdict, hid]⟩

end Scanned

/-! ### Built-in filters -/

/-- What passes the check of a built-in filter is not rejected later. A filter that storage decides
makes a condition of it, except that the one by user ids refuses lists with an item that stands for
none. An evaluator has a verdict on every run, except that the one by a pattern refuses what cannot
be read as one. -/
theorem schema_suffices (id : String) (filter : Filter)
    (hfilter : Registry.builtin.lookup? id = some filter) (params : Json.Object)
    (hvalid : filter.validate params = .ok ()) :
    (filter.isPushdown = true → ∃ built, filter.predicate? params = some built ∧
      ∀ e, built = .error e ↔ id = "users" ∧
        (∃ items, params.present? "users" = some (.array items) ∧
          ∃ item ∈ items, ¬ Stored.IsUserId item) ∧
        e = .wrongType "users" "users" "an array of user ids") ∧
    (∀ evaluate, filter.evaluator? = some evaluate → ∀ moment run,
      ∃ result, evaluate moment run (filter.reader params) = .answer result ∧
        ∀ e, result = .error e ↔ id = "regex" ∧
          ∃ source, params.present? "pattern" = some (.string source) ∧
            Pattern.read? source = none ∧ e = .params (.invalidPattern "regex" source)) := by
  obtain rfl := Registry.id_of_lookup? hfilter
  rcases List.mem_append.mp (Registry.mem_of_lookup?_ofList hfilter) with hmem | hmem
  · refine ⟨fun _ => Stored.exists_predicate? hmem hvalid, fun evaluate hevaluate => ?_⟩
    rw [Stored.evaluator?_eq_none hmem] at hevaluate
    cases hevaluate
  · refine ⟨fun hpushdown => ?_, fun evaluate => Scanned.exists_answer hmem hvalid⟩
    rw [Scanned.isPushdown_eq_false hmem] at hpushdown
    cases hpushdown

/-- A list of user ids that holds a name, and a pattern that opens a group and does not close it. -/
theorem schema_suffices_but_for_names :
    let users : Json.Object := .ofList
      [("users", .array [.ofInt 7, .string " +8 ", .string "bob"])]
    let group : Json.Object := .ofList [("field", .string "input"), ("pattern", .string "(")]
    ∃ byUser byPattern evaluate,
      Registry.builtin.lookup? "users" = some byUser ∧ byUser.validate users = .ok () ∧
      byUser.predicate? users =
        some (.error (.wrongType "users" "users" "an array of user ids")) ∧
      Registry.builtin.lookup? "regex" = some byPattern ∧ byPattern.validate group = .ok () ∧
      byPattern.evaluator? = some evaluate ∧
      ∀ moment run, evaluate moment run (byPattern.reader group) =
        .answer (.error (.params (.invalidPattern "regex" "("))) := by
  intro users group
  refine ⟨_, _, _, rfl, rfl, ?_, rfl, rfl, rfl, fun moment run => ?_⟩
  · obtain ⟨built, hbuilt, herror⟩ := (schema_suffices "users" _ rfl users rfl).1 rfl
    have hbob : ¬ Stored.IsUserId (.string "bob") := by decide
    rw [hbuilt, (herror _).mpr ⟨rfl, ⟨_, rfl, _, by simp, hbob⟩, rfl⟩]
  · obtain ⟨result, hresult, herror⟩ :=
      (schema_suffices "regex" _ rfl group rfl).2 _ rfl moment run
    have hopen : Pattern.read? "(" = none := by decide
    rw [hresult, (herror _).mpr ⟨rfl, _, rfl, hopen, rfl⟩]

end Filter

end RunRadar
