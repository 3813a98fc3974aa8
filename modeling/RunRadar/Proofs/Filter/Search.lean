import RunRadar.Filter.Catalog
import RunRadar.Predicate.Match
import RunRadar.Proofs.Filter.Schema
import RunRadar.Proofs.Json.Value
import RunRadar.Proofs.Text.Lowering
import RunRadar.Run.Virtual

/-!
# RunRadar.Proofs.Filter.Search

**Searching payloads**. A search looks at the strings that input and output hold at any depth, and
at nothing else, so runs with the same strings are found alike (`search_sees_strings_only`). Query
and string are lower-cased each by itself. A query that stands in a string is found there unless a
capital sigma in it becomes another letter than in the string (`search_finds_unless_sigma_turns`),
which can happen when the query begins or ends inside a word (`search_misses_beginning_of_word`).
-/

namespace RunRadar

/-! ### Strings of payloads -/

namespace Json

/-- A string stands in a value: as the value, in an item, or in what stands under a key. -/
inductive Carries (text : String) : Json → Prop
  | here : Carries text (.string text)
  | item {items : List Json} {v : Json} (hv : v ∈ items) (h : Carries text v) :
      Carries text (.array items)
  | member {fields : Object} {key : String} {v : Json} (hv : (key, v) ∈ fields.toList)
      (h : Carries text v) : Carries text (.object fields)

theorem carries_string {text s : String} : Carries text (.string s) ↔ text = s := by
  constructor
  · intro h
    cases h
    rfl
  · rintro rfl
    exact .here

theorem carries_array {text : String} {items : List Json} :
    Carries text (.array items) ↔ ∃ v ∈ items, Carries text v := by
  constructor
  · intro h
    cases h with
    | item hv h => exact ⟨_, hv, h⟩
  · rintro ⟨v, hv, h⟩
    exact .item hv h

theorem carries_object {text : String} {fields : Object} :
    Carries text (.object fields) ↔ ∃ m ∈ fields.toList, Carries text m.2 := by
  constructor
  · intro h
    cases h with
    | member hv h => exact ⟨_, hv, h⟩
  · rintro ⟨m, hm, h⟩
    exact .member hm h

theorem someItemContains_eq_any (needle : List Char) (items : List Json) :
    someItemContains needle items = items.any (someStringContains needle) := by
  induction items with
  | nil => rfl
  | cons item items ih => rw [someItemContains, ih, List.any_cons]

theorem Fields.someValueContains_eq_any (needle : List Char) :
    {lower : Option String} → (fields : Fields lower) →
    fields.someValueContains needle = fields.toList.any fun m => m.2.someStringContains needle
  | _, .nil => rfl
  | _, .cons key above value rest => by
      rw [Fields.someValueContains, someValueContains_eq_any needle rest, toList_cons,
        List.any_cons]

/-- Among values that are found by their strings, one is found by the strings of all of them. -/
theorem exists_mem_found_iff {α : Type} {needle : List Char} {as : List α} {value : α → Json}
    (h : ∀ a ∈ as, (value a).someStringContains needle = true ↔
      ∃ text, Carries text (value a) ∧ needle <:+: Text.lowerChars text.toList) :
    (∃ a ∈ as, (value a).someStringContains needle = true) ↔
      ∃ text, (∃ a ∈ as, Carries text (value a)) ∧ needle <:+: Text.lowerChars text.toList := by
  constructor
  · rintro ⟨a, ha, hfound⟩
    obtain ⟨text, htext, hinfix⟩ := (h a ha).mp hfound
    exact ⟨text, ⟨a, ha, htext⟩, hinfix⟩
  · rintro ⟨text, ⟨a, ha, htext⟩, hinfix⟩
    exact ⟨a, ha, (h a ha).mpr ⟨text, htext, hinfix⟩⟩

/-- The search of a value is a search of the strings that stand in it. -/
theorem someStringContains_iff {needle : List Char} {v : Json} :
    v.someStringContains needle = true ↔
      ∃ text, Carries text v ∧ needle <:+: Text.lowerChars text.toList := by
  induction v using value_induction with
  | null | bool | number =>
      simp only [someStringContains, Bool.false_eq_true, false_iff]
      rintro ⟨text, h, -⟩
      cases h
  | string s => simp [someStringContains, Text.occursIn_iff, carries_string]
  | array items ih =>
      simp only [someStringContains, someItemContains_eq_any, List.any_eq_true, carries_array]
      exact exists_mem_found_iff ih
  | object fields ih =>
      simp only [someStringContains, Fields.someValueContains_eq_any, List.any_eq_true,
        carries_object]
      exact exists_mem_found_iff ih

end Json

/-- A string stands in the input or the output of a run. -/
def Run.Carries (run : Run) (text : String) : Prop :=
  ∃ v, (run.input = some v ∨ run.output = some v) ∧ v.Carries text

/-- A search of input and output finds runs by the strings in them. -/
theorem Predicate.holds_search {run : Run} {q : String} :
    (contains [.input, .output] q).holds run = true ↔
      ∃ text, run.Carries text ∧ Text.lowerChars q.toList <:+: Text.lowerChars text.toList := by
  simp only [holds, List.any_cons, List.any_nil, Bool.or_false, Bool.or_eq_true,
    Run.fieldContains, Option.any_eq_true, Json.someStringContains_iff]
  constructor
  · rintro (⟨v, hv, text, htext, hinfix⟩ | ⟨v, hv, text, htext, hinfix⟩)
    · exact ⟨text, ⟨v, .inl hv, htext⟩, hinfix⟩
    · exact ⟨text, ⟨v, .inr hv, htext⟩, hinfix⟩
  · rintro ⟨text, ⟨v, hv, htext⟩, hinfix⟩
    exact hv.imp (fun hv => ⟨v, hv, text, htext, hinfix⟩) fun hv => ⟨v, hv, text, htext, hinfix⟩

/-! ### The filter -/

namespace Filter

/-- The filter that searches payloads. -/
def Stored.bySearch : Filter := define "search" [.needed "query" .text] search

/-- It makes a condition of any query. -/
theorem Stored.predicate?_bySearch {params : Json.Object} {q : String}
    (h : params.present? "query" = some (.string q)) :
    bySearch.predicate? params = some (.ok (.contains [.input, .output] q)) := by
  have hquery : (bySearch.reader params).text "query" = .ok q := ParamReader.text_eq_ok_iff.mpr h
  have hvalid : bySearch.validate params = .ok () := by
    refine ParamReader.validate_eq_ok_iff.mpr fun spec hspec => ?_
    obtain rfl := List.mem_singleton.mp hspec
    exact ParamReader.check_needed_eq_ok_iff.mpr ⟨q, hquery⟩
  rw [predicate?_of_fits rfl hvalid, search, hquery]
  rfl

/-- A search finds the strings that contain the query once both are lower-cased. A string in which
the query stands is one of them if the capital sigmas of the query become there what they become
alone, and they do unless a letter is next to it. -/
theorem search_finds_unless_sigma_turns (filter : Filter)
    (hfilter : Registry.builtin.lookup? "search" = some filter) (params : Json.Object) (q : String)
    (hquery : params.present? "query" = some (.string q)) :
    ∃ p, filter.predicate? params = some (.ok p) ∧
      (∀ run, p.holds run = true ↔ ∃ text, run.Carries text ∧
        Text.lowerChars q.toList <:+: Text.lowerChars text.toList) ∧
      (∀ (run : Run) (text : String) (before after : List Char), run.Carries text →
        text.toList = before ++ q.toList ++ after →
        Text.KeepsSigmas before.reverse q.toList after → p.holds run = true) ∧
      ∀ before after : List Char,
        'Σ' ∉ q.toList ∨ Text.Delimits before.reverse ∧ Text.Delimits after →
        Text.KeepsSigmas before.reverse q.toList after := by
  cases hfilter
  refine ⟨_, Stored.predicate?_bySearch hquery, fun _ => Predicate.holds_search, ?_, ?_⟩
  · intro run text before after hcarries htext hkeeps
    refine Predicate.holds_search.mpr ⟨text, hcarries, ?_⟩
    rw [htext]
    exact hkeeps.infix
  · rintro before after (hsigma | ⟨hbefore, hafter⟩)
    · exact Text.keepsSigmas_of_not_mem hsigma
    · exact Text.keepsSigmas_of_delimits hbefore hafter

/-- A query that ends in a sigma is found where it is a word, inside an object inside a list. -/
theorem search_finds_whole_word :
    let params : Json.Object := .ofList [("query", .string "ΟΔΥΣ")]
    let payload : Json := .array [.null, .object (.ofList [("who", .string "(ΟΔΥΣ)")])]
    let run := ({ output := some payload } : VirtualRun).runUntil ⟨0, 0, by decide⟩ none
    ∃ p, Stored.bySearch.predicate? params = some (.ok p) ∧ p.holds run = true := by
  intro params payload run
  obtain ⟨p, hp, -, hfinds, hkeeps⟩ :=
    search_finds_unless_sigma_turns Stored.bySearch rfl params "ΟΔΥΣ" rfl
  have hcarries : run.Carries "(ΟΔΥΣ)" :=
    ⟨payload, .inr rfl, .item (List.mem_cons_of_mem _ List.mem_cons_self)
      (.member List.mem_cons_self .here)⟩
  have hopen : Text.Delimits ['('] := by
    intro c hc
    cases hc
    decide
  have hclose : Text.Delimits [')'] := by
    intro c hc
    cases hc
    decide
  exact ⟨p, hp, hfinds run _ ['('] [')'] hcarries rfl (hkeeps _ _ (.inr ⟨hopen, hclose⟩))⟩

/-- A query that ends in a sigma is not found at the beginning of a longer word. -/
theorem search_misses_beginning_of_word :
    ¬ ∀ (filter : Filter) (params : Json.Object) (q : String) (p : Predicate) (run : Run)
      (text : String), Registry.builtin.lookup? "search" = some filter →
      params.present? "query" = some (.string q) → filter.predicate? params = some (.ok p) →
      run.Carries text → q.toList <:+: text.toList → p.holds run = true := by
  intro h
  let params : Json.Object := .ofList [("query", .string "ΟΔΥΣ")]
  let run := ({ output := some (.string "ΟΔΥΣΣΕΑΣ") } : VirtualRun).runUntil
    ⟨0, 0, by decide⟩ none
  have hquery : params.present? "query" = some (.string "ΟΔΥΣ") := rfl
  have hp := Stored.predicate?_bySearch hquery
  have hcarries : run.Carries "ΟΔΥΣΣΕΑΣ" := ⟨_, .inr rfl, .here⟩
  have hinfix : "ΟΔΥΣ".toList <:+: "ΟΔΥΣΣΕΑΣ".toList := by decide
  have hholds := h Stored.bySearch params "ΟΔΥΣ" _ run _ rfl hquery hp hcarries hinfix
  -- alone the query becomes "οδυς", and the word becomes "οδυσσεας"
  exact absurd hholds (by decide)

/-- Runs in whose payloads the same strings stand are found alike, whatever else stands there, runs
without any are not found, and a string that contains the query is seen wherever it stands. -/
theorem search_sees_strings_only (filter : Filter)
    (hfilter : Registry.builtin.lookup? "search" = some filter) (params : Json.Object) (q : String)
    (hquery : params.present? "query" = some (.string q)) :
    ∃ p, filter.predicate? params = some (.ok p) ∧
      (∀ run run' : Run, (∀ text, run.Carries text ↔ run'.Carries text) →
        p.holds run = p.holds run') ∧
      (∀ run : Run, (∀ text, ¬ run.Carries text) → p.holds run = false) ∧
      ∀ (run : Run) (text : String), run.Carries text →
        Text.lowerChars q.toList <:+: Text.lowerChars text.toList → p.holds run = true := by
  cases hfilter
  refine ⟨_, Stored.predicate?_bySearch hquery, ?_, ?_, ?_⟩
  · intro run run' hsame
    rw [Bool.eq_iff_iff, Predicate.holds_search, Predicate.holds_search]
    simp only [hsame]
  · intro run hnone
    rw [← Bool.not_eq_true, Predicate.holds_search]
    rintro ⟨text, htext, -⟩
    exact hnone text htext
  · intro run text htext hinfix
    exact Predicate.holds_search.mpr ⟨text, htext, hinfix⟩

/-- A string is seen in a list in the output as it is alone in the input, and a key is not seen. -/
theorem search_sees_strings_only_in_shapes :
    let params : Json.Object := .ofList [("query", .string "fox")]
    let run := ({ input := some (.string "The Fox") } : VirtualRun).runUntil ⟨0, 0, by decide⟩ none
    let run' := ({ output := some (.array [.bool true, .string "The Fox"]) } : VirtualRun).runUntil
      ⟨0, 0, by decide⟩ none
    let keyed := ({ input := some (.object (.ofList [("fox", .null)])) } : VirtualRun).runUntil
      ⟨0, 0, by decide⟩ none
    ∃ p, Stored.bySearch.predicate? params = some (.ok p) ∧ p.holds run = true ∧
      p.holds run = p.holds run' ∧ p.holds keyed = false := by
  intro params run run' keyed
  obtain ⟨p, hp, hsame, hnone, hsees⟩ :=
    search_sees_strings_only Stored.bySearch rfl params "fox" rfl
  have hrun : ∀ text, run.Carries text ↔ text = "The Fox" := by
    simp [Run.Carries, run, VirtualRun.runUntil, Json.carries_string]
  have hrun' : ∀ text, run'.Carries text ↔ text = "The Fox" := by
    have htrue : ∀ text, ¬ Json.Carries text (.bool true) := nofun
    simp [Run.Carries, run', VirtualRun.runUntil, Json.carries_array, Json.carries_string, htrue]
  have hkeyed : ∀ text, ¬ keyed.Carries text := by
    rintro text ⟨v, hv | hv, h⟩
    · cases hv
      obtain ⟨m, hm, h⟩ := Json.carries_object.mp h
      obtain rfl := List.mem_singleton.mp hm
      cases h
    · cases hv
  have hfox : Text.lowerChars "fox".toList <:+: Text.lowerChars "The Fox".toList :=
    Text.occursIn_iff.mp (by decide)
  have hfound := hsees run "The Fox" ((hrun _).mpr rfl) hfox
  have halike := hsame run run' fun text => (hrun text).trans (hrun' text).symm
  exact ⟨p, hp, hfound, halike, hnone keyed hkeyed⟩

end Filter

end RunRadar
