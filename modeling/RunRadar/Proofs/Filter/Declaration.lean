import RunRadar.Engine.Interpreter
import RunRadar.Proofs.Filter.Catalog
import RunRadar.Proofs.Filter.Params

/-!
# RunRadar.Proofs.Filter.Declaration

**Declared params only.** A built-in filter looks at the params that its schema declares and at no
others, when it checks them, when it makes a condition of them and when it judges a run by them
(`only_declared_params_count`). Null is no param here. Readers that agree on the declared names are
told apart by none of the accessors (`ParamReader.AgreesOn`), so a filter keeps to its schema when
each name that it reads stands there.
-/

namespace RunRadar

namespace ParamReader

/-! ### Readers that agree -/

/-- Readers for one filter that find the same under the given names. -/
structure AgreesOn (names : List String) (reader reader' : ParamReader) : Prop where
  filter : reader.filter = reader'.filter
  given : ∀ name ∈ names, reader.given? name = reader'.given? name

section AgreesOn

variable {names : List String} {reader reader' : ParamReader}
  (h : reader.AgreesOn names reader') {name : String} (hname : name ∈ names)
include h hname

theorem AgreesOn.text : reader.text name = reader'.text name :=
  text_congr h.filter (h.given name hname)

theorem AgreesOn.number : reader.number name = reader'.number name :=
  number_congr h.filter (h.given name hname)

theorem AgreesOn.select (options : List String) :
    reader.select name options = reader'.select name options :=
  select_congr h.filter (h.given name hname) options

theorem AgreesOn.selectOr (options : List String) (default : String) :
    reader.selectOr name options default = reader'.selectOr name options default := by
  simp only [ParamReader.selectOr, h.given name hname, h.select hname]

theorem AgreesOn.list : reader.list name = reader'.list name :=
  list_congr h.filter (h.given name hname)

end AgreesOn

/-- The check against a schema looks at the params that the schema declares. -/
theorem AgreesOn.validate {schema : List ParamSpec} {reader reader' : ParamReader}
    (h : reader.AgreesOn (schema.map (·.name)) reader') :
    reader.validate schema = reader'.validate schema := by
  induction schema with
  | nil => rfl
  | cons spec schema ih =>
      have hcheck := check_congr h.filter (h.given spec.name List.mem_cons_self)
      have hrest : reader.AgreesOn (schema.map (·.name)) reader' :=
        ⟨h.filter, fun name hname => h.given name (List.mem_cons_of_mem _ hname)⟩
      rw [ParamReader.validate, ParamReader.validate, hcheck, ih hrest]

end ParamReader

/-- Whether the params under the given names are all that a reading looks at. -/
def ReadsOnly {α : Type} (names : List String) (read : ParamReader → α) : Prop :=
  ∀ reader reader' : ParamReader, reader.AgreesOn names reader' → read reader = read reader'

namespace Filter

/-- Whether a filter uses the params that its schema declares and no others. -/
structure KeepsToSchema (filter : Filter) : Prop where
  builds : ∀ build, filter.builder? = some build → ReadsOnly (filter.schema.map (·.name)) build
  judges : ∀ evaluate, filter.evaluator? = some evaluate →
    ∀ moment run, ReadsOnly (filter.schema.map (·.name)) (evaluate moment run)

/-! ### Filters that storage decides -/

namespace Stored

theorem keepsToSchema_define {id : String} {schema : List ParamSpec} {build : ConditionBuilder}
    (h : ReadsOnly (schema.map (·.name)) build) : (define id schema build).KeepsToSchema where
  builds := by
    intro build' hbuild
    cases hbuild
    exact h
  judges := by
    intro evaluate hevaluate
    cases hevaluate

theorem operator_of_agreesOn {names : List String} {reader reader' : ParamReader}
    (h : reader.AgreesOn names reader') (hname : "operator" ∈ names) :
    operator reader = operator reader' := by
  simp only [operator, h.select hname, h.filter]

theorem readsOnly_kind : ReadsOnly ["type"] kind := by
  intro reader reader' h
  simp only [kind, h.select List.mem_cons_self]

theorem readsOnly_models : ReadsOnly ["models"] models := by
  intro reader reader' h
  simp only [models, h.list List.mem_cons_self]

theorem readsOnly_tags : ReadsOnly ["tags"] tags := by
  intro reader reader' h
  simp only [tags, h.list List.mem_cons_self]

theorem readsOnly_status : ReadsOnly ["status"] status := by
  intro reader reader' h
  simp only [status, h.select List.mem_cons_self]

theorem readsOnly_users : ReadsOnly ["users"] users := by
  intro reader reader' h
  simp only [users, h.list List.mem_cons_self, h.filter]

theorem readsOnly_numeric (field : Field) (name : String) :
    ReadsOnly ["operator", name] (numeric field name) := by
  intro reader reader' h
  have hop := operator_of_agreesOn h List.mem_cons_self
  have hx := h.number (List.mem_cons_of_mem _ List.mem_cons_self)
  simp only [numeric, hop, hx]

theorem readsOnly_metadata : ReadsOnly ["key", "value"] metadata := by
  intro reader reader' h
  have hkey := h.text List.mem_cons_self
  have hvalue := h.text (List.mem_cons_of_mem _ List.mem_cons_self)
  simp only [metadata, hkey, hvalue]

theorem readsOnly_search : ReadsOnly ["query"] search := by
  intro reader reader' h
  simp only [search, h.text List.mem_cons_self]

theorem keepsToSchema_of_mem {filter : Filter} (h : filter ∈ filters) : filter.KeepsToSchema := by
  simp only [filters, List.mem_cons, List.not_mem_nil, or_false] at h
  rcases h with rfl | rfl | rfl | rfl | rfl | rfl | rfl | rfl | rfl | rfl
  · exact keepsToSchema_define readsOnly_kind
  · exact keepsToSchema_define readsOnly_models
  · exact keepsToSchema_define readsOnly_tags
  · exact keepsToSchema_define readsOnly_status
  · exact keepsToSchema_define readsOnly_users
  · exact keepsToSchema_define (readsOnly_numeric .durationMs "duration")
  · exact keepsToSchema_define (readsOnly_numeric .cost "cost")
  · exact keepsToSchema_define (readsOnly_numeric .totalTokens "tokens")
  · exact keepsToSchema_define readsOnly_metadata
  · exact keepsToSchema_define readsOnly_search

end Stored

/-! ### Filters that look through texts -/

namespace Scanned

theorem keepsToSchema_define {id : String} {schema : List ParamSpec}
    {decide : Run → ParamReader → Except EvaluatorError Verdict}
    (h : ∀ run, ReadsOnly (schema.map (·.name)) (decide run)) :
    (define id schema decide).KeepsToSchema where
  builds := by
    intro build hbuild
    cases hbuild
  judges := by
    intro evaluate hevaluate moment run reader reader' hagree
    cases hevaluate
    exact congrArg Consultation.answer (h run reader reader' hagree)

section AgreesOn

variable {names : List String} {reader reader' : ParamReader}
  (h : reader.AgreesOn names reader')
include h

theorem payload_of_agreesOn (hname : "field" ∈ names) : payload reader = payload reader' := by
  simp only [payload, h.select hname, h.filter]

theorem wantsMatch_of_agreesOn (hname : "type" ∈ names) :
    wantsMatch reader = wantsMatch reader' := by
  simp only [wantsMatch, h.selectOr hname]

end AgreesOn

theorem readsOnly_personalData (data : PersonalData) (run : Run) :
    ReadsOnly ["field", "type"] (data.evaluate run) := by
  intro reader reader' h
  have hp := payload_of_agreesOn h (by decide)
  have hwanted := wantsMatch_of_agreesOn h (by decide)
  simp only [PersonalData.evaluate, hp, hwanted]

theorem readsOnly_pattern (run : Run) :
    ReadsOnly ["field", "pattern", "type"] (pattern run) := by
  intro reader reader' h
  have hp := payload_of_agreesOn h (by decide)
  have hwanted := wantsMatch_of_agreesOn h (by decide)
  have hsource : reader.text "pattern" = reader'.text "pattern" := h.text (by decide)
  simp only [pattern, hp, hwanted, hsource, h.filter]

theorem readsOnly_length (run : Run) :
    ReadsOnly ["field", "operator", "length"] (length run) := by
  intro reader reader' h
  have hp := payload_of_agreesOn h (by decide)
  have hop := Stored.operator_of_agreesOn h (by decide)
  have hlimit : reader.number "length" = reader'.number "length" := h.number (by decide)
  simp only [length, hp, hop, hlimit]

theorem readsOnly_json (run : Run) : ReadsOnly ["field", "type"] (json run) := by
  intro reader reader' h
  have hp := payload_of_agreesOn h (by decide)
  have htype : reader.selectOr "type" jsonTypes "valid" =
      reader'.selectOr "type" jsonTypes "valid" := h.selectOr (by decide) _ _
  simp only [json, hp, htype]

theorem keepsToSchema_of_mem {filter : Filter} (h : filter ∈ filters) : filter.KeepsToSchema := by
  simp only [filters, List.mem_cons, List.not_mem_nil, or_false] at h
  rcases h with rfl | rfl | rfl | rfl | rfl | rfl
  · exact keepsToSchema_define (readsOnly_personalData .mail)
  · exact keepsToSchema_define (readsOnly_personalData .phone)
  · exact keepsToSchema_define (readsOnly_personalData .card)
  · exact keepsToSchema_define readsOnly_pattern
  · exact keepsToSchema_define readsOnly_length
  · exact keepsToSchema_define readsOnly_json

end Scanned

/-! ### Built-in filters -/

theorem keepsToSchema_of_mem_catalog {filter : Filter} (h : filter ∈ Registry.catalog) :
    filter.KeepsToSchema :=
  (List.mem_append.mp h).elim Stored.keepsToSchema_of_mem Scanned.keepsToSchema_of_mem

section Params

variable {filter : Filter} {params params' : Json.Object}
  (h : (filter.reader params).AgreesOn (filter.schema.map (·.name)) (filter.reader params'))
include h

theorem validate_of_agreesOn : filter.validate params = filter.validate params' := h.validate

/-- A filter that keeps to its schema makes the same condition of params that agree on it. -/
theorem KeepsToSchema.predicate? (hkeeps : filter.KeepsToSchema) :
    filter.predicate? params = filter.predicate? params' := by
  cases hbuild : filter.builder? with
  | none => simp only [Filter.predicate?, hbuild]
  | some build =>
      have hsame := hkeeps.builds build hbuild _ _ h
      simp only [Filter.predicate?, hbuild, validate_of_agreesOn h, hsame]

/-- A leaf of a filter that keeps to its schema is evaluated alike with params that agree on it:
the same calls are made, and the outcome or the error is the same. -/
theorem KeepsToSchema.evaluateFilter {σ : Type} (hkeeps : filter.KeepsToSchema)
    (interpreter : Interpreter σ) (run : Run) :
    interpreter.evaluateFilter run ⟨filter.id, params⟩ filter =
      interpreter.evaluateFilter run ⟨filter.id, params'⟩ filter := by
  have hconsult : ∀ evaluate, filter.evaluator? = some evaluate →
      interpreter.consult evaluate run ⟨filter.id, params⟩ =
        interpreter.consult evaluate run ⟨filter.id, params'⟩ := by
    intro evaluate hevaluate
    have hsame : ∀ moment, evaluate moment run ⟨filter.id, params⟩ =
        evaluate moment run ⟨filter.id, params'⟩ := fun moment =>
      hkeeps.judges evaluate hevaluate moment run _ _ h
    simp only [Interpreter.consult, hsame]
  simp only [Interpreter.evaluateFilter, hkeeps.predicate? h, validate_of_agreesOn h]
  cases hevaluate : filter.evaluator? with
  | none => rfl
  | some evaluate => simp only [hconsult evaluate hevaluate]

end Params

/-- Params that agree where the schema of a built-in filter declares something, null being nothing,
make no difference whatever else they hold: the check comes to the same, the condition is the same,
an evaluator says the same of every run, and so a leaf is evaluated alike over every storage. -/
theorem only_declared_params_count (id : String) (filter : Filter)
    (hfilter : Registry.builtin.lookup? id = some filter) (params params' : Json.Object)
    (hagree : ∀ spec ∈ filter.schema, params.present? spec.name = params'.present? spec.name) :
    filter.validate params = filter.validate params' ∧
    filter.predicate? params = filter.predicate? params' ∧
    (∀ evaluate, filter.evaluator? = some evaluate → ∀ moment run,
      evaluate moment run (filter.reader params) = evaluate moment run (filter.reader params')) ∧
    ∀ (σ : Type) (storage : Storage σ) (rescan : Action σ (Except ScanError ScanReport))
      (run : Run),
      (⟨Registry.builtin, storage, rescan⟩ : Interpreter σ).evaluateLeaf run ⟨id, params⟩ =
        (⟨Registry.builtin, storage, rescan⟩ : Interpreter σ).evaluateLeaf run ⟨id, params'⟩ := by
  obtain rfl := Registry.id_of_lookup? hfilter
  have hkeeps := keepsToSchema_of_mem_catalog (Registry.mem_of_lookup?_ofList hfilter)
  have hreaders : (filter.reader params).AgreesOn (filter.schema.map (·.name))
      (filter.reader params') := by
    refine ⟨rfl, fun name hname => ?_⟩
    obtain ⟨spec, hspec, rfl⟩ := List.mem_map.mp hname
    exact hagree spec hspec
  refine ⟨validate_of_agreesOn hreaders, hkeeps.predicate? hreaders, ?_, ?_⟩
  · intro evaluate hevaluate moment run
    exact hkeeps.judges evaluate hevaluate moment run _ _ hreaders
  · intro σ storage rescan run
    simp only [Interpreter.evaluateLeaf, hfilter]
    exact hkeeps.evaluateFilter hreaders _ run

/-- Beside the field, a type that is null and a pattern make no difference to a search for mail
addresses. -/
theorem only_declared_params_count_null :
    let params : Json.Object := .ofList
      [("field", .string "output"), ("pattern", .string "("), ("type", .null)]
    let params' : Json.Object := .ofList [("field", .string "output")]
    ∃ filter evaluate, Registry.builtin.lookup? "email" = some filter ∧
      filter.validate params = .ok () ∧ filter.evaluator? = some evaluate ∧
      ∀ moment run, evaluate moment run (filter.reader params) =
        evaluate moment run (filter.reader params') := by
  intro params params'
  have hagree : ∀ spec ∈ [Scanned.fieldSpec, Scanned.matchTypeSpec],
      params.present? spec.name = params'.present? spec.name := by decide
  obtain ⟨hvalid, -, hjudges, -⟩ :=
    only_declared_params_count "email" _ rfl params params' hagree
  exact ⟨_, _, rfl, hvalid.trans rfl, rfl, hjudges _ rfl⟩

end Filter

end RunRadar
